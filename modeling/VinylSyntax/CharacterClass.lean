import VinylSyntax.CharacterClass.Alphabetic
import VinylSyntax.CharacterClass.Continuation
import VinylSyntax.CharacterClass.Recent

/-!
# Classes of characters

Lexemes are delimited by the Unicode classes of their characters: blank (the property
`White_Space`), alphabetic, and word characters, which are the alphabetic ones together with marks,
decimal digits, connectors and joiners. Blank and alphabetic are those of Unicode version 17.0 and
words those of version 16.0, so a recent letter begins a lexeme but is no part of a word. Digits of
numerals are the ten ASCII digits only.
-/

namespace VinylSyntax.CharacterClass

/-- Whether a number lies in one of the ranges of a table in rising order. -/
def inRanges (n : Nat) : List (Nat × Nat) → Bool
  | [] => false
  | (first, last) :: rest => first ≤ n && (n ≤ last || inRanges n rest)

/-- The code points with the property `White_Space`. -/
def blank : List (Nat × Nat) :=
  [(0x9, 0xd), (0x20, 0x20), (0x85, 0x85), (0xa0, 0xa0), (0x1680, 0x1680), (0x2000, 0x200a),
   (0x2028, 0x2029), (0x202f, 0x202f), (0x205f, 0x205f), (0x3000, 0x3000)]

/-- Whether no range of a table meets a range of another one. -/
def apart (table other : List (Nat × Nat)) : Bool :=
  table.all fun range => other.all fun range' => range.2 < range'.1 || range'.2 < range.1

/-- What a table holds lies in one of its ranges. -/
theorem exists_range {n : Nat} {table : List (Nat × Nat)} (h : inRanges n table = true) :
    ∃ range ∈ table, range.1 ≤ n ∧ n ≤ range.2 := by
  induction table with
  | nil => cases h
  | cons range table ih =>
    simp only [inRanges, Bool.and_eq_true, Bool.or_eq_true, decide_eq_true_eq] at h
    obtain ⟨hfirst, hlast | hbehind⟩ := h
    · exact ⟨range, by simp, hfirst, hlast⟩
    · obtain ⟨found, hmem, hbounds⟩ := ih hbehind
      exact ⟨found, by simp [hmem], hbounds⟩

/-- What a table holds is not in another one that is apart from it. -/
theorem inRanges_of_apart {n : Nat} {table other : List (Nat × Nat)}
    (hapart : apart table other = true) (h : inRanges n other = true) :
    inRanges n table = false := by
  rw [Bool.eq_false_iff]
  intro hin
  obtain ⟨range, hrange, hbounds⟩ := exists_range hin
  obtain ⟨range', hrange', hbounds'⟩ := exists_range h
  have hdisjoint := List.all_eq_true.1 (List.all_eq_true.1 hapart range hrange) range' hrange'
  simp only [Bool.or_eq_true, decide_eq_true_eq] at hdisjoint
  omega

end VinylSyntax.CharacterClass

namespace VinylSyntax

open CharacterClass

/-- Whether a character is white space. -/
def isBlank (char : Char) : Bool := inRanges char.toNat blank

/-- Whether a character has the property `Alphabetic`. -/
def isAlphabetic (char : Char) : Bool :=
  if char.toNat < 0x10000 then inRanges char.toNat alphabeticBasic
  else inRanges char.toNat alphabeticSupplementary

/-- Whether a character is alphabetic since Unicode version 17.0 only. -/
def isRecent (char : Char) : Bool := inRanges char.toNat recentAlphabetic

/-- Whether a character can stand in a word: alphabetic and not recent, or a mark, a decimal digit,
a connector or a joiner. -/
def isWordChar (char : Char) : Bool :=
  (isAlphabetic char && !isRecent char) || inRanges char.toNat wordContinuation

/-- Whether a character is one of the ten ASCII digits. -/
def isDigit (char : Char) : Bool := '0' ≤ char && char ≤ '9'

/-- The ASCII letters and digits, by their code points. -/
theorem isAlphanum_iff {char : Char} : char.isAlphanum = true ↔
    (65 ≤ char.toNat ∧ char.toNat ≤ 90) ∨ (97 ≤ char.toNat ∧ char.toNat ≤ 122) ∨
      (48 ≤ char.toNat ∧ char.toNat ≤ 57) := by
  show (decide (char.val ≥ 'A'.val ∧ char.val ≤ 'Z'.val) ||
    (decide (char.val ≥ 'a'.val) && decide (char.val ≤ 'z'.val)) ||
    (decide (char.val ≥ '0'.val) && decide (char.val ≤ '9'.val))) = true ↔ _
  simp only [Bool.or_eq_true, Bool.and_eq_true, decide_eq_true_eq, or_assoc]
  exact Iff.rfl

/-- The digits of numerals are among the ASCII letters and digits. -/
theorem isAlphanum_of_isDigit {char : Char} (h : isDigit char = true) : char.isAlphanum = true := by
  have hrange : '0' ≤ char ∧ char ≤ '9' := by simpa [isDigit] using h
  exact isAlphanum_iff.2 (.inr (.inr hrange))

/-- ASCII letters and digits are not blank. -/
theorem isBlank_of_isAlphanum {char : Char} (h : char.isAlphanum = true) :
    isBlank char = false := by
  have hrange := isAlphanum_iff.1 h
  simp only [isBlank, inRanges, blank, Bool.or_false, Bool.and_eq_false_iff, Bool.or_eq_false_iff,
    decide_eq_false_iff_not]
  omega

/-- Alphabetic characters are not blank. -/
theorem isBlank_of_isAlphabetic {char : Char} (h : isAlphabetic char = true) :
    isBlank char = false := by
  unfold isAlphabetic at h
  split at h
  · exact inRanges_of_apart (by decide +kernel) h
  · exact inRanges_of_apart (by decide +kernel) h

/-- The ASCII digits are not alphabetic. -/
theorem isAlphabetic_of_isDigit {char : Char} (h : isDigit char = true) :
    isAlphabetic char = false := by
  have hrange : '0' ≤ char ∧ char ≤ '9' := by simpa [isDigit] using h
  have hin : inRanges char.toNat [(48, 57)] = true := by
    have hfirst : 48 ≤ char.toNat := hrange.1
    have hlast : char.toNat ≤ 57 := hrange.2
    simp [inRanges, hfirst, hlast]
  unfold isAlphabetic
  split
  · exact inRanges_of_apart (by decide +kernel) hin
  · exact inRanges_of_apart (by decide +kernel) hin

end VinylSyntax
