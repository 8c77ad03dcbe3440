import VinylSyntax.Parser.State
import VinylSyntax.Tree

/-!
# The parser

A program is read by recursive descent over this grammar:

```text
program      := (function | statement)*
function     := 'def' IDENT '(' (argument (',' argument)*)? ')' IDENT? block
argument     := IDENT IDENT
block        := '{' statement* '}'
statement    := declaration | conditional | ';' | operand ';'
declaration  := 'let' IDENT IDENT ('=' operand)?
conditional  := 'if' operand block ('else' block)?
operand      := IDENT | INTEGER | FLOAT
```

Comments may stand anywhere. Parsing stops at the first error, which leaves the refused token
unread, and can be resumed there. How deep conditionals may be nested further is the argument that
reading a statement recurs on.
-/

namespace VinylSyntax

namespace Parse

/-- Reads an identifier. -/
def identifier (expected : Expectation) : Parse Identifier := do
  return ⟨← expect Token.isIdentifier expected⟩

/-- Reads the name of a type. -/
def typeName (expected : Expectation) : Parse TypeName := do
  return ⟨← expect Token.isIdentifier expected⟩

/-- Reads an expression. -/
def expression : Parse Expression := do
  return .ofOperand (← expect Expression.isOperand .operand)

/-- Reads the argument of a function. -/
def argument : Parse Argument := do
  enter .argument
  let identifier ← identifier .argumentName
  let typeName ← typeName .argumentType
  leave
  return { identifier, typeName }

/-- Reads the declaration of a variable. -/
def declaration : Parse Declaration := do
  enter .variableDeclaration
  let _ ← expect (Token.isKeyword .letWord) .declarationKeyword
  let identifier ← identifier .variableName
  let typeName ← typeName .variableType
  if ← nextIs (Token.isSymbol .equal) then
    let _ ← advance
    let value ← expression
    leave
    return { identifier, typeName, value := some value }
  else
    leave
    return { identifier, typeName, value := none }

/-- Whether a block has no further statement. -/
def blockEnds : Parse Bool := do
  if ← atEnd then return true else nextIs (Token.isSymbol .braceClose)

/-- Reads a block of statements, each of which is read by `statement`. -/
def block (statement : Parse (Option Statement)) (role : BlockRole) : Parse (List Statement) := do
  enter .block
  let _ ← expect (Token.isSymbol .braceOpen) (.blockOpen role)
  let statements ← collect blockEnds statement
  let _ ← expect (Token.isSymbol .braceClose) (.blockClose role)
  leave
  return statements

/-- Reads the condition and the branches of a conditional. -/
def branches (statement : Parse (Option Statement)) : Parse Statement := do
  let condition ← expression
  let whenTrue ← block statement .whenTrue
  if ← nextIs (Token.isKeyword .elseWord) then
    let _ ← advance
    let whenFalse ← block statement .whenFalse
    return .conditional condition whenTrue whenFalse
  else
    return .conditional condition whenTrue []

/-- Reads a conditional whose branches are made of what `nested` reads; without it, the conditional
is nested too deep. -/
def conditional (nested : Option (Parse (Option Statement))) : Parse Statement := do
  enter .conditional
  let token ← expect (Token.isKeyword .ifWord) .conditionalKeyword
  match nested with
  | none => throw (.nestingTooDeep (Limits.nestingDepth + 1) token.span.start)
  | some statement => leaving (branches statement)

/-- Reads an expression as a statement. -/
def expressionStatement : Parse Statement := do
  enter .expressionStatement
  let expression ← expression
  let _ ← expect (Token.isSymbol .semicolon) .statementEnd
  leave
  return .expression expression

/-- Reads a statement, of which nothing remains if it is empty. -/
def statementWith (nested : Option (Parse (Option Statement))) : Parse (Option Statement) := do
  if ← nextIs (Token.isKeyword .letWord) then
    return some (.declaration (← declaration))
  else if ← nextIs (Token.isKeyword .ifWord) then
    return some (← conditional nested)
  else if ← nextIs (Token.isSymbol .semicolon) then
    let _ ← advance
    return none
  else
    return some (← expressionStatement)

/-- Reads a statement in which conditionals may be nested a number of levels deep. -/
def statement : Nat → Parse (Option Statement)
  | 0 => statementWith none
  | levels + 1 => statementWith (some (statement levels))

/-- Reads the arguments of a function up to the closing parenthesis, `allowed` more than one;
`found` came before, latest first. -/
def argumentsFrom (function : Identifier) (found : List Argument) :
    Nat → Parse (List Argument)
  | 0 => do
    let _ ← argument
    throw (.tooManyArguments function.name (Limits.argumentCount + 1) Limits.argumentCount
      function.span.start)
  | allowed + 1 => do
    let argument ← argument
    if ← nextIs (Token.isSymbol .comma) then
      let _ ← advance
      argumentsFrom function (argument :: found) allowed
    else
      return (argument :: found).reverse

/-- Reads the arguments of a function, of which there may be none. -/
def arguments (function : Identifier) : Parse (List Argument) := do
  if ← nextIs (Token.isSymbol .parenClose) then return []
  else argumentsFrom function [] Limits.argumentCount

/-- Reads the type that a function returns, unless its body follows. -/
def returnType : Parse (Option TypeName) := do
  if ← nextIs (Token.isSymbol .braceOpen) then return none
  else return some (← typeName .returnType)

/-- Reads the definition of a function. -/
def function : Parse Function := do
  enter .functionDefinition
  let _ ← expect (Token.isKeyword .defWord) .functionKeyword
  let identifier ← identifier .functionName
  let _ ← expect (Token.isSymbol .parenOpen) .argumentsOpen
  let arguments ← arguments identifier
  let _ ← expect (Token.isSymbol .parenClose) .argumentsClose
  let returnType ← returnType
  let body ← block (statement Limits.nestingDepth) (.functionBody identifier.name)
  leave
  return { identifier, arguments, returnType, body }

/-- Reads a function or a statement, of which nothing remains if it is empty. -/
def topLevel : Parse (Option TopLevel) := do
  if ← nextIs (Token.isKeyword .defWord) then
    return some (.function (← function))
  else
    return (← statement Limits.nestingDepth).map .statement

/-- Reads a program. -/
def program : Parse (List TopLevel) := do
  enter .program
  let parts ← collect atEnd topLevel
  leave
  return parts

end Parse

namespace Parser

/-- The event of having read a program. -/
def completionEvent (parser : Parser) (program : List TopLevel) : Event :=
  (Event.success .parsingComplete "Syntax analysis completed").withContext
    [("top_level_nodes", toString program.length),
     ("tokens", toString parser.tokens.lexer.tokenCount)]

/-- The event of an error. -/
def errorEvent (parser : Parser) (error : SyntaxError) : Event :=
  ((Event.error error.code error.message).about error.span).withContext
    [("context", parser.production.label)]

/-- Reads a program to the end of input, or up to the first error. -/
def parse (parser : Parser) : Except SyntaxError (List TopLevel) × Parser :=
  match Parse.program parser with
  | .ok program parser => (.ok program, parser.log (parser.completionEvent program))
  | .error error parser => (.error error, parser.log (parser.errorEvent error))

end Parser

/-- The outcome of parsing a source: the program or the error, and the events to be logged. -/
structure Parsed where
  result : Except SyntaxError (List TopLevel)
  events : List Event

/-- Parses what stands in front of a cursor; `earlier` events come first. -/
def parseCursor (lexical : LexicalPreferences) (syntactic : SyntaxPreferences)
    (earlier : List Event) (cursor : Cursor) : Parsed :=
  let (result, parser) :=
    (Parser.ofLexer syntactic (.ofCursor lexical cursor) earlier).parse
  ⟨result, parser.events⟩

/-- Parses a source, of which only the length is reported. -/
def parseSource (preferences : Preferences) (source : String) : Parsed :=
  let start :=
    (Event.debug "Starting syntax analysis").withContext
      [("characters", toString source.length)]
  parseCursor preferences.lexical preferences.syntactic [start] (.ofString source)

/-- Parses the text of a file, whose path is reported. -/
def parseFile (preferences : Preferences) (path source : String) : Parsed :=
  let start := (Event.debug "Starting syntax analysis").withContext [("file", path)]
  parseCursor preferences.lexical preferences.syntactic [start] (.ofString source)

/-- The event of having checked what syntax errors are reported with. -/
def syntaxReadyEvent : Event := .info "Syntax module logging validation completed"

end VinylSyntax
