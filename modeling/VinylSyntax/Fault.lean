/-!
# Faults of checked operations

Positions are counted in 32-bit and offsets in 64-bit counters. An operation that would leave the
range of its counter, or that is handed a malformed position, does not answer: it faults. So does
one that would cut a text in the middle of a character, or make room for more than can be had.
-/

namespace VinylSyntax

/-- Why a checked operation has no answer. -/
inductive Fault where
  /-- A sum does not fit its counter. -/
  | additionOverflow
  /-- A difference would be negative. -/
  | subtractionOverflow
  /-- A line or column is zero, although both are counted from one. -/
  | zeroBasedLocation
  /-- A span would end before it starts. -/
  | reversedSpan
  /-- A text would be cut inside a character or behind its end. -/
  | splitCharacter
  /-- Room is asked for that goes beyond what can be addressed. -/
  | capacityOverflow
deriving DecidableEq

namespace Fault

/-- What a fault says. -/
def message : Fault → String
  | additionOverflow => "attempt to add with overflow"
  | subtractionOverflow => "attempt to subtract with overflow"
  | zeroBasedLocation => "Locations are 1-based"
  | reversedSpan => "Span start must not be after end"
  | splitCharacter => "byte index is not a char boundary"
  | capacityOverflow => "capacity overflow"

end Fault

end VinylSyntax
