/-!
# Binary floating point values of 64 bits

The non-negative values of the 64-bit binary format, infinity included, held as their bit pattern:
eleven bits of exponent above fifty-two bits of fraction. A finite pattern stands for
`significand * 2 ^ scale`, and `ofRatio` gives the value nearest to a quotient of natural numbers,
where a quotient halfway between two values goes to the one with even significand and one from half
a unit above the largest finite value on goes to infinity.
-/

namespace VinylSyntax

/-- A non-negative value of the 64-bit binary format. -/
structure Binary64 where
  bits : Nat
deriving DecidableEq, Inhabited

namespace Binary64

/-- The number of fraction bits. -/
def fractionBits : Nat := 52

/-- The number of fraction patterns. -/
def fractionRange : Nat := Nat.pow 2 fractionBits

/-- The weight of the lowest bit of the smallest values is `2 ^ (-leastScale)`. -/
def leastScale : Nat := 1074

/-- The pattern of zero. -/
def zero : Binary64 := ⟨0⟩

/-- The pattern of infinity: all exponent bits set and no fraction. -/
def infinity : Binary64 := ⟨0x7ff * fractionRange⟩

/-- Whether a pattern stands for a finite value. -/
def isFinite (value : Binary64) : Bool := value.bits < infinity.bits

/-- The exponent field. -/
def exponentField (value : Binary64) : Nat := value.bits / fractionRange

/-- The integer that a finite value is a multiple of a power of two of. -/
def significand (value : Binary64) : Nat :=
  if value.exponentField = 0 then value.bits
  else fractionRange + value.bits % fractionRange

/-- How far the weight of the significand's lowest bit lies above the least one. -/
def elevation (value : Binary64) : Nat := value.exponentField - 1

/-- A quotient rounded to the nearest natural number, halves to the even neighbour. -/
def roundQuotient (numerator denominator : Nat) : Nat :=
  let quotient := numerator / denominator
  let twice := 2 * (numerator % denominator)
  if twice > denominator ∨ (twice = denominator ∧ quotient % 2 = 1) then quotient + 1 else quotient

/-- The value nearest to a quotient whose denominator is not zero. With the weight of the lowest bit
chosen as the least under which the quotient has fifty-three bits, the pattern is the elevation of
that weight, shifted, plus the rounded significand: a significand that rounds up to the next power
of two carries into the exponent. -/
def ofRatio (numerator denominator : Nat) : Binary64 :=
  if numerator = 0 then zero
  else
    let scaled := numerator * Nat.pow 2 leastScale
    let estimate := (scaled / denominator).log2 - fractionBits
    let pattern :=
      estimate * fractionRange + roundQuotient scaled (denominator * Nat.pow 2 estimate)
    if pattern < infinity.bits then ⟨pattern⟩ else infinity

/-- A power of ten beyond every finite value, and one below half the least positive value. -/
def decimalReach : Nat := 400

/-- The value nearest to `mantissa * 10 ^ exponent`. An exponent that leaves no doubt decides
without computing the power. -/
def ofDecimal (mantissa : Nat) (exponent : Int) : Binary64 :=
  if mantissa = 0 then zero
  else if exponent ≥ decimalReach then infinity
  else if exponent + (mantissa.log2 + 1 : Nat) ≤ -(decimalReach : Int) then zero
  else if exponent ≥ 0 then ofRatio (mantissa * Nat.pow 10 exponent.toNat) 1
  else ofRatio mantissa (Nat.pow 10 (-exponent).toNat)

end Binary64

end VinylSyntax
