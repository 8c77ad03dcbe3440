import VinylSyntax.Numeral.Binary64

/-!
# Shortest decimal text

A finite value is written with the fewest decimal digits that still round to it and, among the
texts of that length, with the digits nearest to the value, the even ones if two are equally near.
The search goes over the grids of the multiples of powers of ten from coarse to fine and tests, in
exact arithmetic, the two neighbours of the value on each grid. Values from `1e-5` up to, not
including, `1e16` are written positionally with a point between digits, all others with an exponent.
-/

namespace VinylSyntax

/-- The decimal number `digits * 10 ^ exponent`. -/
structure Decimal where
  digits : Nat
  exponent : Int
deriving DecidableEq, Inhabited

/-- What rounds to a finite positive value: the numbers between `low` and `high` around it, the ends
included or not. All three are counted in units of `2 ^ (-scale)`. -/
structure RoundingInterval where
  low : Nat
  middle : Nat
  high : Nat
  scale : Nat
  closed : Bool

namespace RoundingInterval

/-- The interval of the numbers that round to a value. It reaches halfway to the next value above
and to the previous one below, which at a power of two is half as far away. Both ends round to the
value exactly if its significand is even. -/
def ofValue (value : Binary64) : RoundingInterval :=
  let significand := value.significand
  let unit := Nat.pow 2 value.elevation
  let below := if significand = Binary64.fractionRange ∧ 0 < value.elevation then 1 else 2
  { low := (4 * significand - below) * unit
    middle := 4 * significand * unit
    high := (4 * significand + 2) * unit
    scale := Binary64.leastScale + 2
    closed := significand % 2 = 0 }

/-- Whether the interval, stretched by a factor, holds a point. -/
def holds (interval : RoundingInterval) (factor point : Nat) : Bool :=
  if interval.closed then interval.low * factor ≤ point ∧ point ≤ interval.high * factor
  else interval.low * factor < point ∧ point < interval.high * factor

/-- The point of the grid of multiples of `10 ^ exponent` in the interval that is nearest to its
middle, if there is one. -/
def gridPoint? (interval : RoundingInterval) (exponent : Int) : Option Nat :=
  let factor := Nat.pow 10 (-exponent).toNat
  let step := Nat.pow 2 interval.scale * Nat.pow 10 exponent.toNat
  let middle := interval.middle * factor
  let below := middle / step
  let toBelow := middle - below * step
  let toAbove := (below + 1) * step - middle
  match interval.holds factor (below * step), interval.holds factor ((below + 1) * step) with
  | true, true =>
    if toBelow < toAbove ∨ (toBelow = toAbove ∧ below % 2 = 0) then some below else some (below + 1)
  | true, false => some below
  | false, true => some (below + 1)
  | false, false => none

/-- The first grid, going down from an exponent, that has a point in the interval. -/
def search (interval : RoundingInterval) (exponent : Int) : Nat → Decimal
  | 0 => ⟨0, 0⟩
  | grids + 1 =>
    match interval.gridPoint? exponent with
    | some digits => ⟨digits, exponent⟩
    | none => interval.search (exponent - 1) grids

/-- An exponent above that of the leading digit of the middle, by at most three. -/
def coarsest (interval : RoundingInterval) : Int :=
  ((interval.middle.log2 : Int) - interval.scale) * 30103 / 100000 + 2

/-- How many grids from the coarsest on are searched: seventeen digits always suffice. -/
def searchedGrids : Nat := 24

/-- The decimal number of fewest digits in the interval, nearest to its middle. -/
def shortest (interval : RoundingInterval) : Decimal :=
  interval.search interval.coarsest searchedGrids

end RoundingInterval

namespace Decimal

/-- The exponent of the leading digit. -/
def leadingExponent (decimal : Decimal) : Int :=
  decimal.exponent + (Nat.toDigits 10 decimal.digits).length - 1

/-- The exponents of leading digits that are written positionally. -/
def positionalFrom : Int := -5

/-- The exponents of leading digits that are written positionally end before this one. -/
def positionalBelow : Int := 16

/-- A run of zeros. -/
def zeros (count : Nat) : List Char := List.replicate count '0'

/-- The positional text, with at least one digit on each side of the point. -/
def positional (decimal : Decimal) : List Char :=
  let digits := Nat.toDigits 10 decimal.digits
  if 0 ≤ decimal.exponent then digits ++ zeros decimal.exponent.toNat ++ ['.', '0']
  else if 0 ≤ decimal.leadingExponent then
    let whole := decimal.leadingExponent.toNat + 1
    digits.take whole ++ ['.'] ++ digits.drop whole
  else ['0', '.'] ++ zeros (-decimal.leadingExponent - 1).toNat ++ digits

/-- The text with an exponent, whose sign is always written; a single digit has no point. -/
def scientific (decimal : Decimal) : List Char :=
  let exponent := decimal.leadingExponent
  let significand :=
    match Nat.toDigits 10 decimal.digits with
    | leading :: first :: rest => leading :: '.' :: first :: rest
    | digits => digits
  significand ++ ['e', if exponent < 0 then '-' else '+'] ++ Nat.toDigits 10 exponent.natAbs

/-- The text of a decimal number. -/
def render (decimal : Decimal) : String :=
  let exponent := decimal.leadingExponent
  String.ofList <|
    if positionalFrom ≤ exponent ∧ exponent < positionalBelow then decimal.positional
    else decimal.scientific

end Decimal

namespace Binary64

/-- The shortest decimal text of a finite value; infinity has none. -/
def render? (value : Binary64) : Option String :=
  if value.bits = 0 then some "0.0"
  else if value.isFinite then some (RoundingInterval.ofValue value).shortest.render
  else none

end Binary64

end VinylSyntax
