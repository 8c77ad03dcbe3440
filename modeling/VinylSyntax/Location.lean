import VinylSyntax.Fault

/-!
# Locations and spans

A location is a line and a column of a text, both counted from one; a column counts characters,
whatever their width. `Location.advance` moves past one character and `Location.advanceOver` past a
text, so that the location behind a text is `Location.start.advanceOver text`. A span is the stretch
between two locations, its end excluded.
-/

namespace VinylSyntax

/-- A line and a column of a text, both counted from one. -/
structure Location where
  line : Nat
  column : Nat
deriving DecidableEq, Inhabited

namespace Location

/-- The location of the first character of every text. -/
def start : Location := ⟨1, 1⟩

/-- The location behind a character: a newline opens a line, any other character takes a column. -/
def advance (location : Location) (char : Char) : Location :=
  if char = '\n' then ⟨location.line + 1, 1⟩ else ⟨location.line, location.column + 1⟩

/-- The location behind a text. -/
def advanceOver (location : Location) (text : List Char) : Location :=
  text.foldl advance location

/-- The number of values of the counters that hold lines and columns. -/
def counterRange : Nat := 0x100000000

/-- Both counters hold the location. -/
def Fits (location : Location) : Prop :=
  location.line < counterRange ∧ location.column < counterRange

/-- Whether a location fits is decided by comparing its counters with their range. -/
instance (location : Location) : Decidable location.Fits :=
  inferInstanceAs (Decidable (_ ∧ _))

/-- The location behind a character, in counters that must hold it. -/
def advanceChecked (location : Location) (char : Char) : Except Fault Location :=
  let next := location.advance char
  if next.Fits then .ok next else .error .additionOverflow

/-- The location behind a text, in counters that must hold every location on the way. -/
def advanceOverChecked (location : Location) (text : List Char) : Except Fault Location :=
  text.foldlM advanceChecked location

/-- A location given by its line and column, neither of which may be zero. -/
def ofLineColumn (line column : Nat) : Except Fault Location :=
  if 1 ≤ line ∧ 1 ≤ column then .ok ⟨line, column⟩ else .error .zeroBasedLocation

/-- Locations are ordered by line, then by column. -/
def compare (a b : Location) : Ordering :=
  (Ord.compare a.line b.line).then (Ord.compare a.column b.column)

/-- `a.le b`: the location `a` is not behind `b`. -/
def le (a b : Location) : Prop :=
  a.line < b.line ∨ a.line = b.line ∧ a.column ≤ b.column

/-- `a.lt b`: the location `a` is before `b`. -/
def lt (a b : Location) : Prop :=
  a.line < b.line ∨ a.line = b.line ∧ a.column < b.column

/-- Locations are ordered by line and then by column. -/
instance : LE Location := ⟨le⟩

/-- A location comes before another one if it is on an earlier line, or further left on the same. -/
instance : LT Location := ⟨lt⟩

/-- The order of locations is decided by comparing lines and columns. -/
instance (a b : Location) : Decidable (a ≤ b) := inferInstanceAs (Decidable (_ ∨ _))

/-- The strict order of locations is decided by comparing lines and columns. -/
instance (a b : Location) : Decidable (a < b) := inferInstanceAs (Decidable (_ ∨ _))

/-- The earlier of two locations. -/
def earlier (a b : Location) : Location := if a ≤ b then a else b

/-- The later of two locations. -/
def later (a b : Location) : Location := if a ≤ b then b else a

/-- A location is written `line:column`. -/
def render (location : Location) : String :=
  s!"{location.line}:{location.column}"

/-- An empty text leads to where it begins. -/
@[simp] theorem advanceOver_nil (location : Location) : location.advanceOver [] = location := rfl

/-- Characters lead on one after the other, beginning with the first. -/
@[simp] theorem advanceOver_cons (location : Location) (char : Char) (text : List Char) :
    location.advanceOver (char :: text) = (location.advance char).advanceOver text := rfl

/-- Two texts behind one another lead to where the second leads from behind the first. -/
theorem advanceOver_append (location : Location) (first second : List Char) :
    location.advanceOver (first ++ second) = (location.advanceOver first).advanceOver second := by
  simp [advanceOver]

end Location

/-- The stretch of a text from one location up to another, which is excluded. -/
structure Span where
  start : Location
  stop : Location
deriving DecidableEq, Inhabited

namespace Span

/-- The empty span at a location. -/
def point (location : Location) : Span := ⟨location, location⟩

/-- The span between two locations, the first of which may not be behind the second. -/
def between (start stop : Location) : Except Fault Span :=
  if start ≤ stop then .ok ⟨start, stop⟩ else .error .reversedSpan

/-- The least span that covers two spans. -/
def merge (a b : Span) : Span :=
  ⟨a.start.earlier b.start, a.stop.later b.stop⟩

/-- Whether a span covers no character. -/
def isEmpty (span : Span) : Bool := span.start = span.stop

/-- Whether a location lies in a span. -/
def contains (span : Span) (location : Location) : Bool :=
  span.start ≤ location ∧ location < span.stop

/-- A span within a line is written `line:column-column`, any other by its two locations. -/
def render (span : Span) : String :=
  if span.start.line = span.stop.line then
    s!"{span.start.line}:{span.start.column}-{span.stop.column}"
  else
    s!"{span.start.render}-{span.stop.render}"

end Span

end VinylSyntax
