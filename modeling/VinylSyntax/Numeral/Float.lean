import VinylSyntax.Numeral.Binary64
import VinylSyntax.Numeral.Positional

/-!
# Floating point numerals

A floating point numeral is a run of digits followed by a point, possibly more digits and possibly
an exponent, or by an exponent alone; a suffix may name a storage type. Its value is the value of 64
bits nearest to the number written, whatever the suffix, where the digits of an exponent are read
only as long as it is below `exponentReach`.
-/

namespace VinylSyntax

/-- The storage type that the suffix of a floating point numeral asks for. -/
inductive FloatKind where
  | unsized
  | f32
  | f64
deriving DecidableEq, Inhabited

namespace FloatKind

/-- Every storage type. -/
def all : List FloatKind := [.unsized, .f32, .f64]

/-- The suffix that asks for a storage type. -/
def suffix : FloatKind → String
  | .unsized => ""
  | .f32 => "f32"
  | .f64 => "f64"

/-- The name under which a storage type is exchanged. -/
def name : FloatKind → String
  | .unsized => "Unsized"
  | .f32 => "F32"
  | .f64 => "F64"

/-- The storage type that a suffix asks for. -/
def ofSuffix? (text : String) : Option FloatKind :=
  all.find? fun kind => kind.suffix == text

/-- A text asks for a storage type exactly if it is that type's suffix. -/
theorem ofSuffix?_eq_some_iff {text : String} {kind : FloatKind} :
    ofSuffix? text = some kind ↔ text = kind.suffix := by
  constructor
  · intro h
    have := List.find?_some h
    exact (beq_iff_eq.1 this).symm
  · rintro rfl
    cases kind <;> decide

end FloatKind

/-- A decoded floating point numeral. -/
structure FloatLiteral where
  value : Binary64
  kind : FloatKind
deriving DecidableEq, Inhabited

namespace FloatLiteral

open Numeral

/-- Splits a sign, if there is one, off a text; the answer tells whether it is negative. -/
def splitSign : List Char → Bool × List Char
  | '-' :: rest => (true, rest)
  | '+' :: rest => (false, rest)
  | text => (false, text)

/-- Once the digits of an exponent make a number of this size, those behind them do not count. -/
def exponentReach : Nat := 0x10000

/-- Takes one more digit of an exponent. -/
def takeExponentDigit (magnitude : Nat) (digit : Char) : Nat :=
  if magnitude < exponentReach then magnitude * 10 + digitValue digit else magnitude

/-- The magnitude of an exponent. -/
def exponentMagnitude (digits : List Char) : Nat := digits.foldl takeExponentDigit 0

/-- Splits an exponent off a text that begins with its mark. -/
def splitExponent? : List Char → Option (Int × List Char)
  | 'e' :: text =>
    let (negative, body) := splitSign text
    let digits := body.takeWhile isDigit
    if digits.isEmpty then none
    else
      let magnitude : Int := exponentMagnitude digits
      some (if negative then -magnitude else magnitude, body.dropWhile isDigit)
  | _ => none

/-- The literal made of the digits before and after the point, the exponent and the suffix. -/
def ofParts? (whole fraction : List Char) (exponent : Int) (suffix : List Char) :
    Option FloatLiteral :=
  (FloatKind.ofSuffix? (String.ofList suffix)).map fun kind =>
    ⟨Binary64.ofDecimal (valueOf 10 (whole ++ fraction)) (exponent - fraction.length), kind⟩

/-- Decodes a numeral, if the text is one. -/
def ofChars? (text : List Char) : Option FloatLiteral :=
  let body := normalize text
  let whole := body.takeWhile isDigit
  if whole.isEmpty then none
  else
    match body.dropWhile isDigit with
    | '.' :: rest =>
      let fraction := rest.takeWhile isDigit
      match rest.dropWhile isDigit with
      | 'e' :: tail => do
        let (exponent, suffix) ← splitExponent? ('e' :: tail)
        ofParts? whole fraction exponent suffix
      | suffix => ofParts? whole fraction 0 suffix
    | rest => do
      let (exponent, suffix) ← splitExponent? rest
      ofParts? whole [] exponent suffix

/-- Decodes a numeral, if the text is one. -/
def ofString? (text : String) : Option FloatLiteral := ofChars? text.toList

end FloatLiteral

end VinylSyntax
