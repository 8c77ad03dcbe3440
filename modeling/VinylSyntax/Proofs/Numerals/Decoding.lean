import VinylSyntax.CharacterClass.Lowercase
import VinylSyntax.Lexer.Lexeme
import VinylSyntax.Proofs.Numerals.Float

/-!
# Decoding numerals

Numerals are matched without separators and in lower case. The readers lower ASCII letters only,
but it does not matter how the other characters are lowered (`cleaned_iff`): whatever becomes of
them is no part of a numeral. So the texts that decode, and what they decode to, are those of the
grammars, see `numerals_decoded`.
-/

namespace VinylSyntax

open Numeral

/-- The form of a text in which it is matched: without separators, in lower case. -/
def cleaned (text : List Char) : List Char := (text.filter (· ≠ '_')).flatMap lowercase

/-! ## Lower case beyond ASCII -/

/-- The lower case of a character beyond ASCII letters is the character. -/
theorem toNat_lt_of_toLower {char : Char} (h : char.toLower.toNat < 0x80) : char.toNat < 0x80 := by
  unfold Char.toLower at h
  split at h
  · next hupper => exact Nat.lt_of_le_of_lt (UInt32.le_iff_toNat_le.1 hupper.2) (by decide)
  · exact h

/-- The two ways to lower a text agree on ASCII. -/
theorem cleaned_eq_normalize {text : List Char}
    (h : ∀ char ∈ text, char ≠ '_' → char.toNat < 0x80) : cleaned text = normalize text := by
  rw [cleaned, Numeral.normalize, List.map_eq_flatMap]
  refine List.flatMap_congr fun char hchar => ?_
  obtain ⟨hmem, hother⟩ := List.mem_filter.1 hchar
  exact lowercase_of_lt (h char hmem (by simpa using hother))

/-- What is made of ASCII characters other than `k` is matched either way. -/
theorem cleaned_iff {language : List Char → Prop}
    (hlanguage : ∀ text, language text → ∀ char ∈ text, char.toNat < 0x80 ∧ char ≠ 'k')
    (text : List Char) : language (cleaned text) ↔ language (normalize text) := by
  constructor
  · intro h
    refine cleaned_eq_normalize (fun char hchar hother => ?_) ▸ h
    by_contra hbeyond
    obtain ⟨lower, hmem, hlower⟩ := exists_mem_lowercase (Nat.le_of_not_lt hbeyond)
    have hpart : lower ∈ cleaned text :=
      List.mem_flatMap.2 ⟨char, List.mem_filter.2 ⟨hchar, by simpa using hother⟩, hmem⟩
    obtain ⟨hascii, hk⟩ := hlanguage _ h lower hpart
    exact hlower.elim (by omega) hk
  · intro h
    refine (cleaned_eq_normalize fun char hchar hother => ?_).symm ▸ h
    exact toNat_lt_of_toLower (hlanguage _ h _ (toLower_mem_normalize hchar hother)).1

/-- ASCII letters and digits have code points below 128. -/
theorem toNat_lt_of_isAlphanum {char : Char} (h : char.isAlphanum = true) : char.toNat < 0x80 := by
  have hrange := isAlphanum_iff.1 h
  omega

/-- Integers are decoded from the texts that are integer numerals in lower case. -/
theorem IntegerLiteral.ofString?_eq_some_iff {text : String} {literal : IntegerLiteral} :
    ofString? text = some literal ↔
      ∃ numeral : IntegerNumeral, numeral.text = cleaned text.toList ∧
        numeral.literal = literal := by
  rw [ofString?, ofChars?_eq_some_iff]
  refine (@cleaned_iff (fun text => ∃ numeral : IntegerNumeral, numeral.text = text ∧
    numeral.literal = literal) ?_ text.toList).symm
  rintro _ ⟨numeral, rfl, -⟩ char hchar
  obtain ⟨halphanum, hk⟩ := numeral.isAlphanum_of_mem_text hchar
  exact ⟨toNat_lt_of_isAlphanum halphanum, hk⟩

/-- Floating point numbers are decoded from the texts that are their numerals in lower case. -/
theorem FloatLiteral.exists_ofString?_iff {text : String} {kind : FloatKind} :
    (∃ value, ofString? text = some ⟨value, kind⟩) ↔ FloatNumeral kind (cleaned text.toList) := by
  refine exists_ofChars?_iff.trans (@cleaned_iff (FloatNumeral kind) ?_ text.toList).symm
  intro _ hnumeral char hchar
  rcases hnumeral.char_cases hchar with hdigit | rfl | rfl | rfl | rfl | rfl
  · refine ⟨toNat_lt_of_isAlphanum (isAlphanum_of_isDigit hdigit), ?_⟩
    rintro rfl
    cases hdigit
  all_goals decide

/-! ## Decoding -/

/-- No text decodes both ways. -/
theorem ofString?_disjoint (text : String) :
    IntegerLiteral.ofString? text = none ∨ FloatLiteral.ofString? text = none := by
  cases hinteger : IntegerLiteral.ofString? text with
  | none => exact .inl rfl
  | some literal => exact .inr (IntegerLiteral.float_eq_none hinteger)

/-- A text decodes to an integer if and only if, cleaned, it is an integer numeral, and then to what
that stands for; there is at most one such numeral. It decodes to a floating point number if and
only if it is cleaned to a numeral of those. No text does both, so the token of a number is the same
if integers are tried first. -/
theorem numerals_decoded (text : String) :
    (∀ literal, IntegerLiteral.ofString? text = some literal ↔
      ∃ numeral : IntegerNumeral, numeral.text = cleaned text.toList ∧
        numeral.literal = literal) ∧
    Function.Injective IntegerNumeral.text ∧
    ((FloatLiteral.ofString? text).isSome = true ↔
      ∃ kind, FloatNumeral kind (cleaned text.toList)) ∧
    (IntegerLiteral.ofString? text = none ∨ FloatLiteral.ofString? text = none) ∧
    ∀ span, (Lexeme.number text.toList).token span =
      match Token.integer text span with
      | .ok token => .ok token
      | .error refusal => (Token.float text span).mapError fun _ => .token refusal := by
  refine ⟨fun literal => IntegerLiteral.ofString?_eq_some_iff, IntegerNumeral.text_injective, ?_,
    ofString?_disjoint text, fun span => ?_⟩
  · simp only [← FloatLiteral.exists_ofString?_iff, Option.isSome_iff_exists]
    constructor
    · rintro ⟨literal, hliteral⟩
      exact ⟨literal.kind, literal.value, hliteral⟩
    · rintro ⟨kind, value, hliteral⟩
      exact ⟨_, hliteral⟩
  · rw [Lexeme.token, String.ofList_toList, Token.integer, Token.float]
    rcases ofString?_disjoint text with hnone | hnone <;> rw [hnone]
    · cases FloatLiteral.ofString? text <;> rfl
    · cases IntegerLiteral.ofString? text <;> rfl

end VinylSyntax
