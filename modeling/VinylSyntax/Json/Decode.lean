import VinylSyntax.Json.Document
import VinylSyntax.Preferences
import VinylSyntax.Token.Keyword
import VinylSyntax.Token.Symbol

/-!
# Values of JSON texts

How locations, spans, keywords, symbols, levels and preferences are read from JSON documents. A
structure is an object with a member for each field, others being ignored, or an array of its fields
in order; a constant is its name, alone or as the only member of an object, with the value null.
-/

namespace VinylSyntax

namespace Document

/-- The value of a member, which must be there once. -/
def member? (members : List (Option String × Document)) (key : String) : Option Document :=
  match members.filter fun member => member.1 == some key with
  | [(_, value)] => some value
  | _ => none

/-- The values of the fields of a structure. -/
def fields? (keys : List String) : Document → Option (List Document)
  | .array items => if items.length = keys.length then some items else none
  | .object members =>
    if members.all fun member => member.1.isSome then keys.mapM (member? members) else none
  | _ => none

/-- A number that fits a 32-bit counter. -/
def counter? : Document → Option Nat
  | .number text =>
    if text.all isDecimal then
      let value := text.foldl (fun value digit => 10 * value + (digit.toNat - '0'.toNat)) 0
      if value < Location.counterRange then some value else none
    else none
  | _ => none

/-- A truth value. -/
def bool? : Document → Option Bool
  | .bool value => some value
  | _ => none

/-- The name of a constant. -/
def constant? : Document → Option String
  | .string content => content
  | .object [(key, .null)] => key
  | _ => none

/-- The constant of a list that a document names. -/
def oneOf? {α : Type} (constants : List α) (name : α → String) (document : Document) : Option α :=
  document.constant?.bind fun text => constants.find? fun constant => name constant == text

end Document

/-- The location that a document gives. -/
def Location.ofDocument? (document : Document) : Option Location := do
  match ← document.fields? ["line", "column"] with
  | [line, column] => return ⟨← line.counter?, ← column.counter?⟩
  | _ => none

/-- The span that a document gives. -/
def Span.ofDocument? (document : Document) : Option Span := do
  match ← document.fields? ["start", "end"] with
  | [start, stop] => return ⟨← Location.ofDocument? start, ← Location.ofDocument? stop⟩
  | _ => none

/-- The keyword that a document names. -/
def Keyword.ofDocument? : Document → Option Keyword := Document.oneOf? all name

/-- The symbol that a document names. -/
def Symbol.ofDocument? : Document → Option Symbol := Document.oneOf? all name

/-- The level that a document names. -/
def Level.ofDocument? : Document → Option Level := Document.oneOf? all name

/-- The choices about lexing that a document gives. -/
def LexicalPreferences.ofDocument? (document : Document) : Option LexicalPreferences := do
  match ← document.fields? ["collect_detailed_metrics", "trace_tokens"] with
  | [metrics, trace] => return ⟨← metrics.bool?, ← trace.bool?⟩
  | _ => none

/-- The choices about parsing that a document gives. -/
def SyntaxPreferences.ofDocument? (document : Document) : Option SyntaxPreferences := do
  match ← document.fields? ["trace_productions"] with
  | [trace] => return ⟨← trace.bool?⟩
  | _ => none

/-- The choices about logging that a document gives. -/
def LoggingPreferences.ofDocument? (document : Document) : Option LoggingPreferences := do
  match ← document.fields?
      ["use_structured_logging", "enable_console_logging", "min_log_level"] with
  | [structured, console, level] =>
    return ⟨← structured.bool?, ← console.bool?, ← Level.ofDocument? level⟩
  | _ => none

/-- All choices that a document gives. -/
def Preferences.ofDocument? (document : Document) : Option Preferences := do
  match ← document.fields? ["lexical", "syntax", "logging"] with
  | [lexical, syntactic, logging] =>
    return ⟨← LexicalPreferences.ofDocument? lexical, ← SyntaxPreferences.ofDocument? syntactic,
      ← LoggingPreferences.ofDocument? logging⟩
  | _ => none

end VinylSyntax
