import VinylSyntax.CharacterClass

/-!
# Digits of numerals

The text of a numeral is read without its digit separators `_` and without regard to letter case:
`normalize` removes the former and lowers the latter. Numerals are made of ASCII characters only, so
it is enough to lower those. A run of digits has a positional value in every radix up to sixteen.
-/

namespace VinylSyntax.Numeral

/-- A text without separators, its ASCII letters in lower case. -/
def normalize (text : List Char) : List Char :=
  (text.filter (· ≠ '_')).map Char.toLower

/-- The value of a digit, whose letters are in lower case. -/
def digitValue (digit : Char) : Nat :=
  if isDigit digit then digit.toNat - '0'.toNat else digit.toNat - 'a'.toNat + 10

/-- Whether a character is a digit in a radix of at most sixteen. -/
def isDigitIn (radix : Nat) (char : Char) : Bool :=
  (isDigit char || ('a' ≤ char && char ≤ 'f')) && digitValue char < radix

/-- The positional value of a run of digits. -/
def positional (radix : Nat) (digits : List Char) : Nat :=
  digits.foldl (fun value digit => value * radix + digitValue digit) 0

/-- A further digit shifts the value by one place and is added. -/
theorem positional_append_digit (radix : Nat) (digits : List Char) (digit : Char) :
    positional radix (digits ++ [digit]) = positional radix digits * radix + digitValue digit := by
  simp [positional]

end VinylSyntax.Numeral
