import VinylSyntax.Parser.Basic
import VinylSyntax.Proofs.Checked.Lexing
import VinylSyntax.Proofs.Checked.Rendering

/-!
# Parsing with all checks

The parser once more, with what is left implicit in `Parse`: the lexer checks every location, a
counter holds how deep conditionals are nested at the moment and is counted up in front of the
branches of one and down behind them, and the productions that were entered and not completed are
kept apart from those that the parser says it is in. The two differ in that a conditional leaves its
production even if its branches failed, which does not complete it.

How deep conditionals are nested is decided by the counter alone. The recursion through statements
is unrolled as often as they may be nested; going further down would exhaust it.
-/

namespace VinylSyntax

/-! ## Reading tokens -/

namespace Lookahead

/-- Takes the next item of a lexer; also gives the events to be logged. -/
def ofLexerChecked (lexer : Lexer) : Except Fault (Lookahead × List Event) := do
  let step ← lexer.nextChecked
  return (⟨step.lexer, step.item, false⟩, step.events)

/-- Consumes the next token. -/
def readChecked (lookahead : Lookahead) : Except Fault Reading :=
  match lookahead.pending with
  | some (.ok token) => do
    let step ← lookahead.lexer.nextChecked
    return ⟨.ok (some token), step.events,
      { lookahead with lexer := step.lexer, pending := step.item }⟩
  | some (.error error) => .ok ⟨.error error, [], lookahead⟩
  | none => .ok ⟨.ok none, [], lookahead⟩

/-- A token that is consumed with all checks is the one consumed without them. -/
theorem readChecked_letsThrough (lookahead : Lookahead) :
    LetsThrough lookahead.readChecked lookahead.read := by
  cases hpending : lookahead.pending with
  | none =>
    simp only [readChecked, read, hpending]
    exact .ok _
  | some item =>
    cases item with
    | error error =>
      simp only [readChecked, read, hpending]
      exact .ok _
    | ok token =>
      simp only [readChecked, read, hpending]
      exact lookahead.lexer.nextChecked_letsThrough.bind (.ok _)

end Lookahead

namespace Parser

/-- The parser of what a lexer gives; `earlier` events come first. -/
def ofLexerChecked (preferences : SyntaxPreferences) (lexer : Lexer) (earlier : List Event) :
    Except Fault Parser := do
  let (tokens, events) ← Lookahead.ofLexerChecked lexer
  let lexing := Lexer.openingEvent lexer.preferences :: events
  return ⟨tokens, preferences, [],
    openingEvent preferences :: (lexing.reverse ++ earlier.reverse)⟩

/-- The parser behind its next token. -/
def behindTokenChecked (parser : Parser) : Except Fault Parser := do
  let reading ← parser.tokens.readChecked
  return { parser with
    tokens := reading.lookahead, logged := reading.events.reverse ++ parser.logged }

/-- A parser that passes a token with all checks is the one that passes it without them. -/
theorem behindTokenChecked_letsThrough (parser : Parser) :
    LetsThrough parser.behindTokenChecked parser.behindToken :=
  parser.tokens.readChecked_letsThrough.bind (.ok _)

end Parser

/-! ## The machine -/

/-- Why checked parsing stops: with an error, with a fault, or because the recursion goes further
down than it is unrolled. -/
inductive Stop where
  | refused (error : SyntaxError)
  | fault (fault : Fault)
  | exhausted

/-- A parser with the number of conditionals that are open, and the productions that were entered
and not completed, innermost first. -/
structure Tally where
  parser : Parser
  depth : Nat
  opened : List Production

/-- An action of the checked parser. -/
abbrev Checked := EStateM Stop Tally

namespace Checked

variable {α : Type}

/-- An action that only looks. -/
def looking (action : Parse α) : Checked α := fun tally =>
  match action tally.parser with
  | .ok value parser => .ok value { tally with parser }
  | .error error parser => .error (.refused error) { tally with parser }

/-- Enters a production. -/
def enter (production : Production) : Checked Unit := fun tally =>
  match Parse.enter production tally.parser with
  | .ok _ parser => .ok () { tally with parser, opened := production :: tally.opened }
  | .error error parser => .error (.refused error) { tally with parser }

/-- Completes and leaves the innermost production. -/
def leave : Checked Unit := fun tally =>
  match Parse.leave tally.parser with
  | .ok _ parser => .ok () { tally with parser, opened := tally.opened.tail }
  | .error error parser => .error (.refused error) { tally with parser }

/-- Runs an action one level deeper, and leaves a production behind it whether it succeeds or fails.
Only its success completes the production. -/
def deeper (action : Checked α) : Checked α := fun tally =>
  match action { tally with depth := tally.depth + 1 } with
  | .ok value tally =>
    match subtractChecked tally.depth 1 with
    | .ok depth =>
      let parser := { tally.parser with productions := tally.parser.productions.tail }
      .ok value ⟨parser, depth, tally.opened.tail⟩
    | .error fault => .error (.fault fault) tally
  | .error (.refused error) tally =>
    match subtractChecked tally.depth 1 with
    | .ok depth =>
      let parser := { tally.parser with productions := tally.parser.productions.tail }
      .error (.refused error) ⟨parser, depth, tally.opened⟩
    | .error fault => .error (.fault fault) tally
  | .error stop tally => .error stop tally

/-- Consumes all comments in front of the next other token. -/
def skipComments (tally : Tally) : EStateM.Result Stop Tally Unit :=
  match hpending : tally.parser.tokens.pending with
  | none => .ok () tally
  | some (.error error) => .error (.refused (.lexical error)) tally
  | some (.ok token) =>
    if token.isComment then
      match hbehind : tally.parser.behindTokenChecked with
      | .error fault => .error (.fault fault) tally
      | .ok parser =>
        have : parser.allowance < tally.parser.allowance := by
          obtain rfl := tally.parser.behindTokenChecked_letsThrough parser hbehind
          exact Parser.allowance_behindToken_lt hpending
        skipComments { tally with parser }
    else .ok () tally
termination_by tally.parser.allowance

section skipComments

variable {tally : Tally}

/-- No comments are passed at the end of the text. -/
theorem skipComments_of_none (h : tally.parser.tokens.pending = none) :
    skipComments tally = .ok () tally := by
  rw [skipComments]
  split <;> simp_all

/-- Passing comments fails with the error that the lexer gives. -/
theorem skipComments_of_error {error : LexicalError}
    (h : tally.parser.tokens.pending = some (.error error)) :
    skipComments tally = .error (.refused (.lexical error)) tally := by
  rw [skipComments]
  split <;> simp_all

/-- No comments are passed in front of another token. -/
theorem skipComments_of_token {token : Token}
    (h : tally.parser.tokens.pending = some (.ok token)) (hcomment : token.isComment = false) :
    skipComments tally = .ok () tally := by
  rw [skipComments]
  split <;> simp_all

/-- A comment is passed in front of those that follow. -/
theorem skipComments_of_comment {token : Token} {behind : Parser}
    (h : tally.parser.tokens.pending = some (.ok token)) (hcomment : token.isComment = true)
    (hbehind : tally.parser.behindTokenChecked = .ok behind) :
    skipComments tally = skipComments { tally with parser := behind } := by
  rw [skipComments]
  split
  · simp_all
  · simp_all
  · next token' hpending =>
    obtain rfl : token = token' := by simpa [hpending] using h.symm
    rw [if_pos hcomment]
    split <;> simp_all

end skipComments

/-- Whether no token is left. -/
def atEnd : Checked Bool := do
  skipComments
  return (← looking Parse.peek).isNone

/-- Whether the next token is accepted. -/
def nextIs (accept : Token → Bool) : Checked Bool := do
  skipComments
  return (← looking Parse.peek).any accept

/-- Consumes the next token. -/
def advance : Checked Token := fun tally =>
  match tally.parser.tokens.pending with
  | some (.ok token) =>
    match tally.parser.behindTokenChecked with
    | .ok behind => .ok token { tally with parser := behind.trace (behind.consumptionEvent token) }
    | .error fault => .error (.fault fault) tally
  | some (.error error) => .error (.refused (.lexical error)) tally
  | none => .error (.refused (.unexpectedEnd .anyToken tally.parser.tokens.location)) tally

/-- Consumes the next token if it is accepted. -/
def expect (accept : Token → Bool) (expected : Expectation) : Checked Token := do
  if ← nextIs accept then advance else looking (Parse.unexpected expected)

/-- Collects what an action finds, again and again until `stop` holds; `found` was found before,
latest first. -/
def collectFrom (stop : Checked Bool) (action : Checked (Option α)) (found : List α)
    (tally : Tally) : EStateM.Result Stop Tally (List α) :=
  match stop tally with
  | .error error tally => .error error tally
  | .ok true tally => .ok found.reverse tally
  | .ok false ready =>
    match action ready with
    | .error error tally => .error error tally
    | .ok value behind =>
      let found := value.toList ++ found
      if behind.parser.allowance < tally.parser.allowance then collectFrom stop action found behind
      else .ok found.reverse behind
termination_by tally.parser.allowance

/-! ## Productions -/

/-- Reads an identifier. -/
def identifier (expected : Expectation) : Checked Identifier := do
  return ⟨← expect Token.isIdentifier expected⟩

/-- Reads the name of a type. -/
def typeName (expected : Expectation) : Checked TypeName := do
  return ⟨← expect Token.isIdentifier expected⟩

/-- Reads an expression. -/
def expression : Checked Expression := do
  return .ofOperand (← expect Expression.isOperand .operand)

/-- Reads the argument of a function. -/
def argument : Checked Argument := do
  enter .argument
  let identifier ← identifier .argumentName
  let typeName ← typeName .argumentType
  leave
  return { identifier, typeName }

/-- Reads the declaration of a variable. -/
def declaration : Checked Declaration := do
  enter .variableDeclaration
  let _ ← expect (Token.isKeyword .letWord) .declarationKeyword
  let identifier ← identifier .variableName
  let typeName ← typeName .variableType
  if ← nextIs (Token.isSymbol .equal) then
    let _ ← advance
    let value ← expression
    leave
    return { identifier, typeName, value := some value }
  else
    leave
    return { identifier, typeName, value := none }

/-- Whether a block has no further statement. -/
def blockEnds : Checked Bool := do
  if ← atEnd then return true else nextIs (Token.isSymbol .braceClose)

/-- Reads a block of statements, each of which is read by `statement`. -/
def block (statement : Checked (Option Statement)) (role : BlockRole) :
    Checked (List Statement) := do
  enter .block
  let _ ← expect (Token.isSymbol .braceOpen) (.blockOpen role)
  let statements ← collectFrom blockEnds statement []
  let _ ← expect (Token.isSymbol .braceClose) (.blockClose role)
  leave
  return statements

/-- Reads the condition and the branches of a conditional. -/
def branches (statement : Checked (Option Statement)) : Checked Statement := do
  let condition ← expression
  let whenTrue ← block statement .whenTrue
  if ← nextIs (Token.isKeyword .elseWord) then
    let _ ← advance
    let whenFalse ← block statement .whenFalse
    return .conditional condition whenTrue whenFalse
  else
    return .conditional condition whenTrue []

/-- Reads a conditional, unless as many are open as may be nested. -/
def conditional (statement : Checked (Option Statement)) : Checked Statement := do
  enter .conditional
  let token ← expect (Token.isKeyword .ifWord) .conditionalKeyword
  let depth := (← get).depth
  if Limits.nestingDepth ≤ depth then
    throw (.refused (.nestingTooDeep (depth + 1) token.span.start))
  else deeper (branches statement)

/-- Reads an expression as a statement. -/
def expressionStatement : Checked Statement := do
  enter .expressionStatement
  let expression ← expression
  let _ ← expect (Token.isSymbol .semicolon) .statementEnd
  leave
  return .expression expression

/-- Reads a statement, of which nothing remains if it is empty; `nested` reads the statements in the
branches of a conditional. -/
def statementWith (nested : Checked (Option Statement)) : Checked (Option Statement) := do
  if ← nextIs (Token.isKeyword .letWord) then
    return some (.declaration (← declaration))
  else if ← nextIs (Token.isKeyword .ifWord) then
    return some (← conditional nested)
  else if ← nextIs (Token.isSymbol .semicolon) then
    let _ ← advance
    return none
  else
    return some (← expressionStatement)

/-- Reads a statement, where the recursion is unrolled a number of times. -/
def statement : Nat → Checked (Option Statement)
  | 0 => statementWith (throw .exhausted)
  | levels + 1 => statementWith (statement levels)

/-- Reads the arguments of a function up to the closing parenthesis, `allowed` more than one;
`found` came before, latest first. -/
def argumentsFrom (function : Identifier) (found : List Argument) : Nat → Checked (List Argument)
  | 0 => do
    let _ ← argument
    throw (.refused (.tooManyArguments function.name (Limits.argumentCount + 1)
      Limits.argumentCount function.span.start))
  | allowed + 1 => do
    let argument ← argument
    if ← nextIs (Token.isSymbol .comma) then
      let _ ← advance
      argumentsFrom function (argument :: found) allowed
    else
      return (argument :: found).reverse

/-- Reads the arguments of a function, of which there may be none. -/
def arguments (function : Identifier) : Checked (List Argument) := do
  if ← nextIs (Token.isSymbol .parenClose) then return []
  else argumentsFrom function [] Limits.argumentCount

/-- Reads the type that a function returns, unless its body follows. -/
def returnType : Checked (Option TypeName) := do
  if ← nextIs (Token.isSymbol .braceOpen) then return none
  else return some (← typeName .returnType)

/-- Reads the definition of a function. -/
def function : Checked Function := do
  enter .functionDefinition
  let _ ← expect (Token.isKeyword .defWord) .functionKeyword
  let identifier ← identifier .functionName
  let _ ← expect (Token.isSymbol .parenOpen) .argumentsOpen
  let arguments ← arguments identifier
  let _ ← expect (Token.isSymbol .parenClose) .argumentsClose
  let returnType ← returnType
  let body ← block (statement Limits.nestingDepth) (.functionBody identifier.name)
  leave
  return { identifier, arguments, returnType, body }

/-- Reads a function or a statement, of which nothing remains if it is empty. -/
def topLevel : Checked (Option TopLevel) := do
  if ← nextIs (Token.isKeyword .defWord) then
    return some (.function (← function))
  else
    return (← statement Limits.nestingDepth).map .statement

/-- Reads a program. -/
def program : Checked (List TopLevel) := do
  enter .program
  let parts ← collectFrom atEnd topLevel []
  leave
  return parts

end Checked

/-! ## Parsing -/

namespace Tally

/-- A parser that is about to parse: no conditional is open. -/
def ofParser (parser : Parser) : Tally := ⟨parser, 0, parser.productions⟩

/-- Reads a program to the end of input, or up to the first error. A production that is open from
before counts as entered. -/
def parse (tally : Tally) : Except Stop (Except SyntaxError (List TopLevel) × Tally) :=
  match Checked.program { tally with opened := tally.parser.productions } with
  | .ok parts tally =>
    let parser := tally.parser.log (tally.parser.completionEvent parts)
    .ok (.ok parts, { tally with parser })
  | .error (.refused error) tally =>
    let parser := tally.parser.log (tally.parser.errorEvent error)
    .ok (.error error, { tally with parser })
  | .error stop _ => .error stop

/-- Parses a number of times, one behind the other. -/
def parseTimes (tally : Tally) :
    Nat → Except Stop (List (Except SyntaxError (List TopLevel)) × Tally)
  | 0 => .ok ([], tally)
  | times + 1 => do
    let (result, tally) ← tally.parse
    let (results, tally) ← tally.parseTimes times
    return (result :: results, tally)

end Tally

/-- Parses a number of times, one behind the other. -/
def Parser.parseTimes (parser : Parser) : Nat → List (Except SyntaxError (List TopLevel)) × Parser
  | 0 => ([], parser)
  | times + 1 =>
    let (result, parser) := parser.parse
    let (results, parser) := parser.parseTimes times
    (result :: results, parser)

end VinylSyntax
