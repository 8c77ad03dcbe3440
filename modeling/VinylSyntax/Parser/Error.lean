import VinylSyntax.Lexer.Error

/-!
# Syntax errors

A syntax error says what was expected and which token, or the end of input, stood in its place; or
that one of the limits is broken; or that the lexer failed.
-/

namespace VinylSyntax

/-- Which block a pair of braces encloses. -/
inductive BlockRole where
  | functionBody (name : String)
  | whenTrue
  | whenFalse
deriving DecidableEq, Inhabited

/-- What a block is called in messages. -/
def BlockRole.label : BlockRole → String
  | .functionBody name => s!"the function body of \"{name}\""
  | .whenTrue => "true-condition of if statement"
  | .whenFalse => "false-condition of if statement"

/-- What may stand at a place of a program. -/
inductive Expectation where
  | functionKeyword
  | functionName
  | argumentsOpen
  | argumentName
  | argumentType
  | argumentsClose
  | returnType
  | blockOpen (role : BlockRole)
  | blockClose (role : BlockRole)
  | conditionalKeyword
  | declarationKeyword
  | variableName
  | variableType
  | operand
  | statementEnd
  | anyToken
deriving DecidableEq, Inhabited

/-- What is said when an expectation is not met, given what a token is called and its text. -/
def Expectation.message (label text : String) : Expectation → String
  | .functionKeyword => "Function definitions must begin with \"def\""
  | .functionName => s!"The {label}: \"{text}\" is not a valid function name"
  | .argumentsOpen => "Expected \"(\" to begin function argument list"
  | .argumentName => s!"The {label}: \"{text}\" is not a valid argument name"
  | .argumentType => s!"The {label} \"{text}\" is not a valid argument type"
  | .argumentsClose => "Expected \")\" to end function argument list"
  | .returnType => s!"Unexpected {label}: \"{text}\" as function return type"
  | .blockOpen role => s!"Expected \"\x7b\" to begin {role.label}"
  | .blockClose role => s!"Expected \"\x7d\" to end {role.label}"
  | .conditionalKeyword => "If statements must begin with \"if\""
  | .declarationKeyword => "Variable declarations must begin with \"let\""
  | .variableName => s!"The {label}: \"{text}\" is not a valid variable name"
  | .variableType => s!"The {label} \"{text}\" is not a valid variable type"
  | .operand => s!"Expected an expression but found {label}: \"{text}\""
  | .statementEnd => "Expected \";\" to end statement"
  | .anyToken => s!"Unexpected {label}"

/-- Why a source is no program. -/
inductive SyntaxError where
  | unexpectedToken (expected : Expectation) (token : Token)
  | unexpectedEnd (expected : Expectation) (location : Location)
  | nestingTooDeep (depth : Nat) (location : Location)
  | tooManyArguments (function : String) (count limit : Nat) (location : Location)
  | lexical (error : LexicalError)
deriving DecidableEq, Inhabited

namespace SyntaxError

/-- What the end of input is called where a token would be named. -/
def endLabel : String := "end of input"

/-- What an error says. -/
def message : SyntaxError → String
  | .unexpectedToken expected token => expected.message token.label token.text
  | .unexpectedEnd expected _ => expected.message endLabel ""
  | .nestingTooDeep depth _ => s!"Maximum nesting depth of {depth} exceeded"
  | .tooManyArguments function count limit _ =>
    s!"Function \"{function}\" declares {count} arguments (max {limit})"
  | .lexical error => error.message

/-- The code that an error is reported with. -/
def code : SyntaxError → Code
  | .unexpectedToken _ _ => .unexpectedToken
  | .unexpectedEnd _ _ => .unexpectedEndOfInput
  | .nestingTooDeep _ _ => .nestingTooDeep
  | .tooManyArguments _ _ _ _ => .tooManyArguments
  | .lexical error => error.code

/-- The stretch of source that an error is about; it is empty if the error is about a place. -/
def span : SyntaxError → Span
  | .unexpectedToken _ token => token.span
  | .unexpectedEnd _ location => .point location
  | .nestingTooDeep _ location => .point location
  | .tooManyArguments _ _ _ location => .point location
  | .lexical error => error.span

/-- Where an error begins. -/
def location (error : SyntaxError) : Location := error.span.start

/-- The token that was refused, if there is one. -/
def token? : SyntaxError → Option Token
  | .unexpectedToken _ token => some token
  | _ => none

end SyntaxError

end VinylSyntax
