import VinylSyntax.Diagnostic.Code
import VinylSyntax.Json.Basic
import VinylSyntax.Limits
import VinylSyntax.Location

/-!
# Events

An event is what the program reports about its work: a level, a code, a message cut to the longest
length allowed, possibly a stretch of source, and a context of named values kept in the order of
their names. An event has three texts: one line, several lines with all that is registered about its
code, and a JSON object.
-/

namespace VinylSyntax

/-- How much an event matters, from the most to the least. -/
inductive Level where
  | error
  | warning
  | info
  | debug
deriving DecidableEq, Inhabited

namespace Level

/-- Every level. -/
def all : List Level := [.error, .warning, .info, .debug]

/-- The place of a level in the order. -/
def rank : Level → Nat
  | .error => 0
  | .warning => 1
  | .info => 2
  | .debug => 3

/-- Whether events of a level are let through where a least level is asked for. -/
def passes (level least : Level) : Bool := level.rank ≤ least.rank

/-- What a level is called in log lines. -/
def label : Level → String
  | .error => "ERROR"
  | .warning => "WARN"
  | .info => "INFO"
  | .debug => "DEBUG"

/-- The name under which a level is exchanged. -/
def name : Level → String
  | .error => "Error"
  | .warning => "Warning"
  | .info => "Info"
  | .debug => "Debug"

/-- The level that a text asks for, by name or number and whatever its letter case. -/
def ofString? (text : String) : Option Level :=
  let lowered := String.ofList (text.toList.map Char.toLower)
  if lowered = "error" ∨ lowered = "0" then some .error
  else if lowered = "warning" ∨ lowered = "warn" ∨ lowered = "1" then some .warning
  else if lowered = "info" ∨ lowered = "2" then some .info
  else if lowered = "debug" ∨ lowered = "3" then some .debug
  else none

end Level

/-- Named values in the order of their names, each name once. -/
structure Context where
  pairs : List (String × String)
deriving DecidableEq, Inhabited

namespace Context

/-- The context without values. -/
def empty : Context := ⟨[]⟩

/-- Puts a value under a name into a list that is in the order of names. -/
def insertPair (key value : String) : List (String × String) → List (String × String)
  | [] => [(key, value)]
  | (other, held) :: rest =>
    if key = other then (key, value) :: rest
    else if key < other then (key, value) :: (other, held) :: rest
    else (other, held) :: insertPair key value rest

/-- Puts a value under a name, in place of the one that was there. -/
def insert (context : Context) (key value : String) : Context :=
  ⟨insertPair key value context.pairs⟩

/-- The context of the pairs of a list; a later pair replaces an earlier one of the same name. -/
def ofList (pairs : List (String × String)) : Context :=
  pairs.foldl (fun context pair => context.insert pair.1 pair.2) empty

/-- Whether there is no value. -/
def isEmpty (context : Context) : Bool := context.pairs.isEmpty

/-- The JSON object of a context. -/
def json (context : Context) : Json :=
  .object (context.pairs.map fun pair => (pair.1, .string pair.2))

end Context

/-- Something the program reports about its work. -/
structure Event where
  level : Level
  code : Code
  message : String
  span : Option Span
  context : Context
deriving DecidableEq, Inhabited

namespace Event

/-- A message cut to the longest length allowed, with dots where it was cut. -/
def cut (message : String) : String :=
  if message.length ≤ Limits.messageLength then message
  else String.ofList (message.toList.take Limits.messageLength) ++ "..."

/-- An event without a stretch of source and without context. -/
def plain (level : Level) (code : Code) (message : String) : Event :=
  ⟨level, code, cut message, none, .empty⟩

/-- An error. -/
def error (code : Code) (message : String) : Event := plain .error code message

/-- A warning; warnings share one code. -/
def warning (message : String) : Event := plain .warning .warning message

/-- An information that reports no particular success. -/
def info (message : String) : Event := plain .info .information message

/-- A success. -/
def success (code : Code) (message : String) : Event := plain .info code message

/-- A debugging event; debugging events share one code. -/
def debug (message : String) : Event := plain .debug .debugging message

/-- The event about a stretch of source. -/
def about (event : Event) (span : Span) : Event := { event with span := some span }

/-- The event with further context. -/
def withContext (event : Event) (pairs : List (String × String)) : Event :=
  { event with
    context := pairs.foldl (fun context pair => context.insert pair.1 pair.2) event.context }

/-- Whether an event is an error. -/
def isError (event : Event) : Bool := event.level == .error

/-- Whether an event is a warning. -/
def isWarning (event : Event) : Bool := event.level == .warning

/-- Whether an event is an information or a success. -/
def isInfo (event : Event) : Bool := event.level == .info

/-- Whether an event is for debugging. -/
def isDebug (event : Event) : Bool := event.level == .debug

/-- The line of an event. -/
def line (event : Event) : String :=
  let place := (event.span.map fun span => s!" at {span.start.render}").getD ""
  s!"[{event.level.label}] {event.code.text} - {event.message}{place}"

/-- The lines of an event: its line, what is registered about its code, and its context. -/
def details (event : Event) : String :=
  let code := event.code
  let classification :=
    [s!"  Category: {code.category}", s!"  Severity: {code.severity.name}"]
  let consequences :=
    if event.isError then
      [s!"  Recoverable: {code.isRecoverable}", s!"  Requires halt: {code.requiresHalt}"]
    else []
  let description :=
    if code.description = Code.unknownDescription then []
    else [s!"  Description: {code.description}"]
  let action :=
    if code.action = Code.unknownAction then []
    else [s!"  Recommended action: {code.action}"]
  let context :=
    if event.context.isEmpty then []
    else "  Context:" :: event.context.pairs.map fun pair => s!"    {pair.1}: {pair.2}"
  "\n".intercalate
    (event.line :: classification ++ consequences ++ description ++ action ++ context)

end Event

/-- The JSON object of a location, its members in the order of their names. -/
def Location.sortedJson (location : Location) : Json :=
  .object [("column", .nat location.column), ("line", .nat location.line)]

/-- The JSON object of a span, its members in the order of their names. -/
def Span.sortedJson (span : Span) : Json :=
  .object [("end", span.stop.sortedJson), ("start", span.start.sortedJson)]

namespace Event

/-- The JSON object of an event that happened at a time, its members in the order of their names. -/
def json (event : Event) (time : String) : Json :=
  let code := event.code
  let context := if event.context.isEmpty then [] else [("context", event.context.json)]
  let consequences :=
    if event.isError then
      [("error_metadata", Json.object
        [("description", .string code.description),
         ("recommended_action", .string code.action),
         ("recoverable", .bool code.isRecoverable),
         ("requires_halt", .bool code.requiresHalt)])]
    else []
  let span := (event.span.map fun span => ("span", span.sortedJson)).toList
  .object <|
    [("category", .string code.category), ("code", .string code.text)] ++ context ++ consequences ++
    [("level", .string event.level.label), ("message", .string event.message),
     ("severity", .string code.severity.name)] ++ span ++ [("timestamp", .string time)]

end Event

end VinylSyntax
