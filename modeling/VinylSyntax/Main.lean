import Std.Time.DateTime.Timestamp
import VinylSyntax.CommandLine
import VinylSyntax.Journal.Instant

/-!
# The program

The outer layer of the command line: it reads the environment, the clock and the file, and prints.
-/

open VinylSyntax

/-- The variables that the program is run with. -/
def readEnvironment : IO Environment := do
  let bindings ← Environment.names.filterMapM fun name => do
    return (← IO.getEnv name).map fun value => (name, value)
  return ⟨bindings⟩

/-- What the file system has at a path. -/
def readEntry (path : String) : IO Entry := do
  try
    return .file (← IO.FS.readBinFile path)
  catch
    | .noFileOrDirectory .. => return .absent
    | .inappropriateType .. => return .directory
    | .permissionDenied .. => return .unreadable 0 .denied
    | error => return .unreadable 0 (.other (toString error))

/-- The current time in words. -/
def readClock : IO String := do
  let sinceEpoch := (← Std.Time.Timestamp.now).val
  return (Instant.mk sinceEpoch.second.val sinceEpoch.nano.val.toNat).render

/-- Runs the program: reads the environment and the file, and writes what the invocation gives. -/
def main (arguments : List String) : IO UInt32 := do
  let invocation := Invocation.ofArguments arguments
  let environment ← readEnvironment
  let entry ← match invocation.path? with
    | some path => readEntry path
    | none => pure .absent
  let outcome := invocation.run environment entry
  for line in outcome.errors do
    IO.eprintln (line.render (← readClock))
  IO.print outcome.output
  return outcome.exitCode.toUInt32
