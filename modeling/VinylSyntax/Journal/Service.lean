import VinylSyntax.Journal.Buffer
import VinylSyntax.Preferences

/-!
# Logging services

A service takes events and passes those of sufficient level on to a fan of sinks. A sink is a
console that writes lines or JSON objects, or a buffer. What consoles write is collected as data;
the time of an event is known only when its JSON object is put into words.
-/

namespace VinylSyntax

/-- A line written to the error output: a text, or an event to be written as a JSON object. -/
inductive ConsoleLine where
  | text (line : String)
  | record (event : Event)
deriving DecidableEq, Inhabited

/-- The text of a line written at a time. -/
def ConsoleLine.render (time : String) : ConsoleLine → String
  | .text line => line
  | .record event => (event.json time).compact

/-- Where events end up. -/
inductive Sink where
  | console (least : Level)
  | structured (least : Level)
  | memory (buffer : Buffer)
deriving Inhabited

namespace Sink

/-- Hands an event to a sink; also gives the lines written. -/
def accept (event : Event) : Sink → Sink × List ConsoleLine
  | .console least =>
    (.console least, if event.level.passes least then [.text event.line] else [])
  | .structured least =>
    (.structured least, if event.level.passes least then [.record event] else [])
  | .memory buffer => (.memory (buffer.push event), [])

/-- The buffer of a sink that is one. -/
def buffer? : Sink → Option Buffer
  | .memory buffer => some buffer
  | _ => none

/-- Empties a sink that is a buffer. -/
def clear : Sink → Sink
  | .memory _ => .memory .empty
  | sink => sink

end Sink

/-- Several sinks that each get the events of sufficient level. -/
structure Fan where
  least : Level
  sinks : List Sink
deriving Inhabited

namespace Fan

/-- Hands an event to all sinks in order; also gives the lines written. -/
def accept (fan : Fan) (event : Event) : Fan × List ConsoleLine :=
  if event.level.passes fan.least then
    let taken := fan.sinks.map (Sink.accept event)
    ({ fan with sinks := taken.map Prod.fst }, taken.flatMap Prod.snd)
  else (fan, [])

/-- A single sink that gets all events. -/
def single (sink : Sink) : Fan := ⟨.debug, [sink]⟩

end Fan

/-- A fan of sinks behind a least level. -/
structure Service where
  least : Level
  fan : Fan
deriving Inhabited

namespace Service

/-- The service that the preferences ask for: with a console of the form chosen, or without one. -/
def ofPreferences (preferences : LoggingPreferences) : Service :=
  let least := preferences.leastLevel
  let sinks :=
    if preferences.console then
      [if preferences.structured then .structured least else .console least]
    else []
  ⟨least, ⟨least, sinks⟩⟩

/-- A service with a console of the form chosen, whether one is asked for or not. -/
def toConsole (preferences : LoggingPreferences) : Service :=
  let least := preferences.leastLevel
  ⟨least, .single (if preferences.structured then .structured least else .console least)⟩

/-- A service that keeps events in a buffer. -/
def toMemory (least : Level) : Service := ⟨least, .single (.memory .empty)⟩

/-- Whether events of a level are passed on. -/
def passes (service : Service) (level : Level) : Bool := level.passes service.least

/-- Logs an event; also gives the lines written. -/
def log (service : Service) (event : Event) : Service × List ConsoleLine :=
  if service.passes event.level then
    let (fan, lines) := service.fan.accept event
    ({ service with fan := fan }, lines)
  else (service, [])

/-- Logs events in order; also gives the lines written. -/
def logAll (service : Service) (events : List Event) : Service × List ConsoleLine :=
  let (service, lines) :=
    events.foldl (fun (service, lines) event =>
      let (service, written) := service.log event
      (service, written.reverse ++ lines)) (service, [])
  (service, lines.reverse)

/-- Changes the least level. -/
def setLevel (service : Service) (least : Level) : Service := { service with least := least }

/-- Changes one of the sinks. -/
def modifySink (service : Service) (index : Nat) (change : Sink → Sink) : Service :=
  { service with fan := { service.fan with sinks := service.fan.sinks.modify index change } }

/-- Empties one of the sinks. -/
def clear (service : Service) (index : Nat) : Service := service.modifySink index Sink.clear

/-- The buffer of one of the sinks; empty if that is none. -/
def buffer (service : Service) (index : Nat) : Buffer :=
  (service.fan.sinks[index]?.bind Sink.buffer?).getD .empty

end Service

end VinylSyntax
