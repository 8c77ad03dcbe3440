import VinylSyntax.Journal.Event

/-!
# Event buffers

A buffer keeps events in the order in which they came, up to a fixed number: each further one drops
the oldest. It is a queue of two lists, so that adding an event takes constant time on average;
`Buffer.toList` is the view by which it is reasoned about.
-/

namespace VinylSyntax

/-- The latest events, at most as many as the limit allows: `front` holds the oldest ones, oldest
first, and `back` the latest ones, latest first. `size` counts both. -/
structure Buffer where
  front : List Event
  back : List Event
  size : Nat
deriving Inhabited

namespace Buffer

/-- The buffer without events. -/
def empty : Buffer := ⟨[], [], 0⟩

/-- The events of a buffer, oldest first. -/
def toList (buffer : Buffer) : List Event := buffer.front ++ buffer.back.reverse

/-- Drops the oldest event. -/
def dropOldest (buffer : Buffer) : Buffer :=
  match buffer.front with
  | _ :: front => { buffer with front := front, size := buffer.size - 1 }
  | [] => { front := buffer.back.reverse.tail, back := [], size := buffer.size - 1 }

/-- Adds an event behind all others, without regard to the limit. -/
def append (buffer : Buffer) (event : Event) : Buffer :=
  { buffer with back := event :: buffer.back, size := buffer.size + 1 }

/-- Adds an event behind all others; in a full buffer, the oldest event makes room. -/
def push (buffer : Buffer) (event : Event) : Buffer :=
  if Limits.bufferedEvents ≤ buffer.size then buffer.dropOldest.append event
  else buffer.append event

/-- How many events of each level a buffer holds, and how many altogether. -/
structure Summary where
  total : Nat
  errors : Nat
  warnings : Nat
  infos : Nat
  debugs : Nat
deriving DecidableEq, Inhabited

/-- Counts the events of a buffer by level. -/
def summary (buffer : Buffer) : Summary :=
  let events := buffer.toList
  { total := buffer.size
    errors := events.countP Event.isError
    warnings := events.countP Event.isWarning
    infos := events.countP Event.isInfo
    debugs := events.countP Event.isDebug }

/-- The errors that a buffer holds. -/
def errors (buffer : Buffer) : List Event := buffer.toList.filter Event.isError

/-- The warnings that a buffer holds. -/
def warnings (buffer : Buffer) : List Event := buffer.toList.filter Event.isWarning

/-- The events of a code that a buffer holds. -/
def withCode (buffer : Buffer) (code : Code) : List Event :=
  buffer.toList.filter fun event => event.code == code

/-- The events that a buffer holds about a part of the program. -/
def ofCategory (buffer : Buffer) (category : String) : List Event :=
  buffer.toList.filter fun event => event.code.category == category

/-- Whether a buffer holds an error of a code. -/
def hasError (buffer : Buffer) (code : Code) : Bool :=
  buffer.toList.any fun event => event.isError && event.code == code

/-- Whether a buffer holds an information of a code. -/
def hasSuccess (buffer : Buffer) (code : Code) : Bool :=
  buffer.toList.any fun event => event.isInfo && event.code == code

/-- An empty buffer holds no events. -/
@[simp] theorem toList_empty : empty.toList = [] := rfl

/-- An appended event is held behind all others. -/
@[simp] theorem toList_append (buffer : Buffer) (event : Event) :
    (buffer.append event).toList = buffer.toList ++ [event] := by
  simp [append, toList]

/-- Dropping takes away the event in front of all others. -/
@[simp] theorem toList_dropOldest (buffer : Buffer) :
    buffer.dropOldest.toList = buffer.toList.tail := by
  unfold dropOldest toList
  cases buffer.front <;> simp

end Buffer

end VinylSyntax
