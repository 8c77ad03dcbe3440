import VinylSyntax.Numeral.Positional

/-!
# Integer numerals

An integer numeral is a base marker (`0b`, `0o` or `0c`, `0x`, or nothing for decimal), a non-empty
run of digits of that base and an optional suffix naming a storage type. Its value is a natural
number of any size. `IntegerLiteral.ofChars?` reads numerals and `IntegerLiteral.render` writes the
canonical one.
-/

namespace VinylSyntax

/-- The radix of an integer numeral, selected by its marker. -/
inductive IntegerBase where
  | binary
  | octal
  | decimal
  | hexadecimal
deriving DecidableEq, Inhabited

namespace IntegerBase

/-- Every base. -/
def all : List IntegerBase := [.binary, .octal, .decimal, .hexadecimal]

/-- The number of digits of a base. -/
def radix : IntegerBase → Nat
  | .binary => 2
  | .octal => 8
  | .decimal => 10
  | .hexadecimal => 16

/-- The marker in front of a canonical numeral. -/
def marker : IntegerBase → String
  | .binary => "0b"
  | .octal => "0o"
  | .decimal => ""
  | .hexadecimal => "0x"

/-- The name under which a base is exchanged. -/
def name : IntegerBase → String
  | .binary => "Binary"
  | .octal => "Octal"
  | .decimal => "Decimal"
  | .hexadecimal => "Hexadecimal"

/-- Splits the marker off a normalized numeral; octal has two. -/
def splitMarker : List Char → IntegerBase × List Char
  | '0' :: 'b' :: rest => (.binary, rest)
  | '0' :: 'o' :: rest => (.octal, rest)
  | '0' :: 'c' :: rest => (.octal, rest)
  | '0' :: 'x' :: rest => (.hexadecimal, rest)
  | text => (.decimal, text)

end IntegerBase

/-- The storage type that the suffix of an integer numeral asks for. -/
inductive IntegerKind where
  | unsized
  | i8
  | u8
  | i16
  | u16
  | i32
  | u32
  | i64
  | u64
  | isize
  | usize
deriving DecidableEq, Inhabited

namespace IntegerKind

/-- Every storage type. -/
def all : List IntegerKind :=
  [.unsized, .i8, .u8, .i16, .u16, .i32, .u32, .i64, .u64, .isize, .usize]

/-- The suffix that asks for a storage type. -/
def suffix : IntegerKind → String
  | .unsized => ""
  | .i8 => "i8"
  | .u8 => "u8"
  | .i16 => "i16"
  | .u16 => "u16"
  | .i32 => "i32"
  | .u32 => "u32"
  | .i64 => "i64"
  | .u64 => "u64"
  | .isize => "iz"
  | .usize => "uz"

/-- The name under which a storage type is exchanged. -/
def name : IntegerKind → String
  | .unsized => "Unsized"
  | .i8 => "I8"
  | .u8 => "U8"
  | .i16 => "I16"
  | .u16 => "U16"
  | .i32 => "I32"
  | .u32 => "U32"
  | .i64 => "I64"
  | .u64 => "U64"
  | .isize => "ISize"
  | .usize => "USize"

/-- The storage type that a suffix asks for. -/
def ofSuffix? (text : String) : Option IntegerKind :=
  all.find? fun kind => kind.suffix == text

/-- A text asks for a storage type exactly if it is that type's suffix. -/
theorem ofSuffix?_eq_some_iff {text : String} {kind : IntegerKind} :
    ofSuffix? text = some kind ↔ text = kind.suffix := by
  constructor
  · intro h
    have := List.find?_some h
    exact (beq_iff_eq.1 this).symm
  · rintro rfl
    cases kind <;> decide

end IntegerKind

/-- A decoded integer numeral. -/
structure IntegerLiteral where
  value : Nat
  base : IntegerBase
  kind : IntegerKind
deriving DecidableEq, Inhabited

namespace IntegerLiteral

open Numeral

/-- Decodes a numeral, if the text is one. -/
def ofChars? (text : List Char) : Option IntegerLiteral :=
  let (base, body) := IntegerBase.splitMarker (normalize text)
  let digits := body.takeWhile (isDigitIn base.radix)
  if digits.isEmpty then none
  else
    (IntegerKind.ofSuffix? (String.ofList (body.dropWhile (isDigitIn base.radix)))).map fun kind =>
      ⟨valueOf base.radix digits, base, kind⟩

/-- Decodes a numeral, if the text is one. -/
def ofString? (text : String) : Option IntegerLiteral := ofChars? text.toList

/-- The number of values of a 64-bit word. -/
def wordRange : Nat := 0x10000000000000000

/-- The value, if a 64-bit word holds it. -/
def toWord? (literal : IntegerLiteral) : Option Nat :=
  if literal.value < wordRange then some literal.value else none

/-- The canonical numeral: marker, digits without leading zeros, suffix. -/
def render (literal : IntegerLiteral) : String :=
  literal.base.marker ++ String.ofList (digitsOf literal.base.radix literal.value) ++
    literal.kind.suffix

end IntegerLiteral

end VinylSyntax
