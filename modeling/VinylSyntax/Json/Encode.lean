import VinylSyntax.Json.Basic
import VinylSyntax.Numeral.Shortest
import VinylSyntax.Preferences
import VinylSyntax.Tree

/-!
# JSON values of tokens and trees

How locations, spans, tokens, trees and preferences are exchanged. A structure is an object whose
members stand in the order of its fields; a choice between several forms is an object with the name
of the form beside its value. Integers of any size are strings of decimal digits, and infinity,
which JSON cannot write as a number, is null.
-/

namespace VinylSyntax

/-- The JSON object of a location. -/
def Location.json (location : Location) : Json :=
  .object [("line", .nat location.line), ("column", .nat location.column)]

/-- The JSON object of a span. -/
def Span.json (span : Span) : Json :=
  .object [("start", span.start.json), ("end", span.stop.json)]

/-- The JSON number of a value, null for infinity. -/
def Binary64.json (value : Binary64) : Json :=
  match value.render? with
  | some text => .number text
  | none => .null

/-- The JSON object of an integer literal. -/
def IntegerLiteral.json (literal : IntegerLiteral) : Json :=
  .object
    [("value", .string (String.ofList (Numeral.digitsOf 10 literal.value))),
     ("base", .string literal.base.name), ("kind", .string literal.kind.name)]

/-- The JSON object of a floating point literal. -/
def FloatLiteral.json (literal : FloatLiteral) : Json :=
  .object [("value", literal.value.json), ("kind", .string literal.kind.name)]

/-- The JSON object of a kind of token. -/
def TokenKind.json : TokenKind → Json
  | .integer literal => .object [("type", .string "Integer"), ("value", literal.json)]
  | .float literal => .object [("type", .string "Float"), ("value", literal.json)]
  | .identifier => .object [("type", .string "Identifier")]
  | .keyword word => .object [("type", .string "Keyword"), ("value", .string word.name)]
  | .symbol mark => .object [("type", .string "Symbol"), ("value", .string mark.name)]
  | .comment => .object [("type", .string "Comment")]

/-- The JSON object of a token. -/
def Token.json (token : Token) : Json :=
  .object [("kind", token.kind.json), ("text", .string token.text), ("span", token.span.json)]

/-- The JSON object of a name. -/
def Identifier.json (identifier : Identifier) : Json :=
  .object [("identifier", identifier.token.json)]

/-- The JSON object of a type name. -/
def TypeName.json (typeName : TypeName) : Json :=
  .object [("identifier", typeName.token.json)]

/-- The JSON object of an argument. -/
def Argument.json (argument : Argument) : Json :=
  .object [("identifier", argument.identifier.json), ("type_name", argument.typeName.json)]

/-- The JSON object of an expression. -/
def Expression.json : Expression → Json
  | .identifier name => .object [("expression", .string "Identifier"), ("value", name.json)]
  | .integer token => .object [("expression", .string "Integer"), ("value", token.json)]
  | .float token => .object [("expression", .string "Float"), ("value", token.json)]

/-- The JSON object of the declaration of a variable. -/
def Declaration.json (declaration : Declaration) : Json :=
  .object
    [("identifier", declaration.identifier.json), ("type_name", declaration.typeName.json),
     ("value", .ofOption (declaration.value.map Expression.json))]

mutual

/-- The JSON object of a statement. -/
def Statement.json : Statement → Json
  | .expression operand =>
    .object [("statement", .string "Expression"), ("value", operand.json)]
  | .conditional condition whenTrue whenFalse =>
    .object
      [("statement", .string "If"),
       ("value", .object
        [("condition", condition.json), ("when_true", .array (Statement.jsonItems whenTrue)),
         ("when_false", .array (Statement.jsonItems whenFalse))])]
  | .declaration declared =>
    .object [("statement", .string "VariableDeclaration"), ("value", declared.json)]

/-- The JSON objects of statements. -/
def Statement.jsonItems : List Statement → List Json
  | [] => []
  | statement :: statements => statement.json :: Statement.jsonItems statements

end

/-- The JSON object of the definition of a function. -/
def Function.json (function : Function) : Json :=
  .object
    [("identifier", function.identifier.json),
     ("arguments", .array (function.arguments.map Argument.json)),
     ("return_type", .ofOption (function.returnType.map TypeName.json)),
     ("block", .array (Statement.jsonItems function.body))]

/-- The JSON object of a part of a program. -/
def TopLevel.json : TopLevel → Json
  | .function definition =>
    .object [("node", .string "FunctionDefinition"), ("value", definition.json)]
  | .statement content => .object [("node", .string "Statement"), ("value", content.json)]

/-- The JSON object of choices about lexing. -/
def LexicalPreferences.json (preferences : LexicalPreferences) : Json :=
  .object
    [("collect_detailed_metrics", .bool preferences.detailedMetrics),
     ("trace_tokens", .bool preferences.traceTokens)]

/-- The JSON object of choices about parsing. -/
def SyntaxPreferences.json (preferences : SyntaxPreferences) : Json :=
  .object [("trace_productions", .bool preferences.traceProductions)]

/-- The JSON object of choices about logging. -/
def LoggingPreferences.json (preferences : LoggingPreferences) : Json :=
  .object
    [("use_structured_logging", .bool preferences.structured),
     ("enable_console_logging", .bool preferences.console),
     ("min_log_level", .string preferences.leastLevel.name)]

/-- The JSON object of all choices. -/
def Preferences.json (preferences : Preferences) : Json :=
  .object
    [("lexical", preferences.lexical.json), ("syntax", preferences.syntactic.json),
     ("logging", preferences.logging.json)]

end VinylSyntax
