import VinylSyntax.Proofs.Numerals.Reach

/-!
# Canonical integer numerals

Every integer literal has one canonical numeral: the first marker of its base, the digits of its
value without leading zeros, and the suffix of its kind (`IntegerLiteral.numeral`). This is what is
written for the literal, and reading it gives the literal back. So what is written tells the
literal, whatever text that was read from: see `render_lossless`.
-/

namespace VinylSyntax

open Numeral

/-! ## Digits of a number -/

/-- A digit has the value that it is written for. -/
theorem digitValue_digitChar {digit : Nat} (h : digit < 16) :
    digitValue (Nat.digitChar digit) = digit := by
  have hall : ∀ digit < 16, digitValue (Nat.digitChar digit) = digit := by decide
  exact hall digit h

/-- A number below a radix is written as a digit in it. -/
theorem isDigitIn_digitChar {radix digit : Nat} (hradix : radix ≤ 16) (h : digit < radix) :
    isDigitIn radix (Nat.digitChar digit) = true := by
  have hall : ∀ digit < 16, (isDigit (Nat.digitChar digit) ||
      ('a' ≤ Nat.digitChar digit && Nat.digitChar digit ≤ 'f')) = true := by decide
  have hlt : digit < 16 := Nat.lt_of_lt_of_le h hradix
  rw [isDigitIn, hall digit hlt, digitValue_digitChar hlt, Bool.true_and, decide_eq_true_eq]
  exact h

section

variable {radix : Nat} (hradix : 1 < radix) (hlimit : radix ≤ 16)

include hradix hlimit

/-- A number is written in digits of the radix. -/
theorem isDigitIn_of_mem_toDigits (n : Nat) :
    ∀ char ∈ Nat.toDigits radix n, isDigitIn radix char = true := by
  induction n using Nat.strongRecOn with
  | ind n ih =>
    by_cases hlt : n < radix
    · rw [Nat.toDigits_of_lt_base hlt]
      exact List.forall_mem_singleton.2 (isDigitIn_digitChar hlimit hlt)
    · -- All digits but the last one are those of the quotient.
      have hle := Nat.le_of_not_lt hlt
      have hquotient : n / radix < n := Nat.div_lt_self (by omega) hradix
      have hlast : n % radix < radix := Nat.mod_lt n (by omega)
      rw [Nat.toDigits_of_base_le hradix hle, List.forall_mem_append]
      exact ⟨ih _ hquotient, List.forall_mem_singleton.2 (isDigitIn_digitChar hlimit hlast)⟩

/-- A number is the positional value of what it is written in. -/
theorem positional_toDigits (n : Nat) : positional radix (Nat.toDigits radix n) = n := by
  induction n using Nat.strongRecOn with
  | ind n ih =>
    by_cases hlt : n < radix
    · have hvalue := digitValue_digitChar (Nat.lt_of_lt_of_le hlt hlimit)
      rw [Nat.toDigits_of_lt_base hlt]
      simp [positional, hvalue]
    · have hle := Nat.le_of_not_lt hlt
      have hquotient : n / radix < n := Nat.div_lt_self (by omega) hradix
      have hlast : n % radix < radix := Nat.mod_lt n (by omega)
      rw [Nat.toDigits_of_base_le hradix hle, positional_append_digit, ih _ hquotient,
        digitValue_digitChar (Nat.lt_of_lt_of_le hlast hlimit)]
      exact Nat.div_add_mod' n radix

end

/-! ## The numeral of a literal -/

/-- Every base has more than one digit. -/
theorem IntegerBase.one_lt_radix (base : IntegerBase) : 1 < base.radix := by
  cases base <;> decide

/-- No base has more than sixteen digits. -/
theorem IntegerBase.radix_le (base : IntegerBase) : base.radix ≤ 16 := by
  cases base <;> decide

/-- The marker that a base is written with is one that it is read with. -/
theorem IntegerBase.marker_mem_markers (base : IntegerBase) : base.marker ∈ base.markers := by
  cases base <;> decide

namespace IntegerLiteral

/-- The canonical numeral of a literal. -/
def numeral (literal : IntegerLiteral) : IntegerNumeral where
  base := literal.base
  marker := literal.base.marker
  digits := digitsOf literal.base.radix literal.value
  kind := literal.kind
  marker_mem := literal.base.marker_mem_markers
  digits_ne_nil := by
    rw [digitsOf_eq_toDigits literal.base.one_lt_radix]
    exact Nat.toDigits_ne_nil
  digits_mem := by
    rw [digitsOf_eq_toDigits literal.base.one_lt_radix]
    intro digit hdigit
    exact IntegerBase.isDigitIn_iff.1
      (isDigitIn_of_mem_toDigits literal.base.one_lt_radix literal.base.radix_le _ digit hdigit)

/-- The canonical numeral is what is written for a literal. -/
theorem text_numeral (literal : IntegerLiteral) :
    literal.numeral.text = literal.render.toList := by
  simp [IntegerNumeral.text, numeral, render]

/-- The canonical numeral stands for the literal. -/
theorem literal_numeral (literal : IntegerLiteral) : literal.numeral.literal = literal := by
  have hvalue : literal.numeral.value = literal.value := by
    rw [← literal.numeral.valueOf_digits, valueOf_eq_positional]
    show positional literal.base.radix (digitsOf literal.base.radix literal.value) = literal.value
    rw [digitsOf_eq_toDigits literal.base.one_lt_radix]
    exact positional_toDigits literal.base.one_lt_radix literal.base.radix_le literal.value
  show IntegerLiteral.mk literal.numeral.value literal.base literal.kind = literal
  rw [hvalue]

end IntegerLiteral

namespace IntegerNumeral

/-- Numerals have neither separators nor capital letters. -/
theorem normalize_text (numeral : IntegerNumeral) : normalize numeral.text = numeral.text := by
  have hall : alphabet.all (fun char => char != '_' && char.toLower == char) = true := by decide
  have hplain : ∀ char ∈ numeral.text, char ≠ '_' ∧ char.toLower = char := fun char hchar => by
    simpa using List.all_eq_true.1 hall char (mem_alphabet hchar)
  have hseparators : numeral.text.filter (· ≠ '_') = numeral.text :=
    List.filter_eq_self.2 fun char hchar => by simpa using (hplain char hchar).1
  rw [Numeral.normalize, hseparators]
  exact (List.map_congr_left fun char hchar => (hplain char hchar).2).trans (List.map_id _)

/-- Numerals begin with a digit. -/
theorem head_isDigit (numeral : IntegerNumeral) : numeral.text.head?.any isDigit = true := by
  rcases IntegerBase.marker_cases numeral.marker_mem with ⟨hbase, hmarker⟩ | ⟨mark, hmarker, -, -⟩
  · obtain ⟨digit, digits, hdigits⟩ := List.exists_cons_of_ne_nil numeral.digits_ne_nil
    have hall : IntegerBase.decimal.digits.all isDigit = true := by decide
    have hmem := numeral.digits_mem digit (by simp [hdigits])
    rw [hbase] at hmem
    rw [text, hmarker, hdigits]
    exact List.all_eq_true.1 hall digit hmem
  · rw [text, hmarker]
    rfl

end IntegerNumeral

namespace IntegerLiteral

/-- What is written for a literal is read as the literal. -/
theorem ofString?_render (literal : IntegerLiteral) :
    ofString? literal.render = some literal := by
  rw [ofString?, ofChars?_eq_some_iff, ← literal.text_numeral]
  exact ⟨literal.numeral, literal.numeral.normalize_text.symm, literal.literal_numeral⟩

/-- What is written tells the literal. -/
theorem render_injective : Function.Injective render := by
  intro literal other h
  have hread := literal.ofString?_render
  rw [h, other.ofString?_render] at hread
  exact (Option.some.inj hread).symm

end IntegerLiteral

/-- What is written for an integer literal is read as that literal, and is lexed to a single item,
an integer that stands for it. So what is written is canonical: of two texts that are read, it is
the same if and only if they are read as the same literal. -/
theorem render_lossless (preferences : LexicalPreferences) (literal : IntegerLiteral) :
    IntegerLiteral.ofString? literal.render = some literal ∧
      LexesTo preferences literal.render (.integer literal) ∧
      ∀ text other,
        (IntegerLiteral.ofString? text).map IntegerLiteral.render =
          (IntegerLiteral.ofString? other).map IntegerLiteral.render ↔
        IntegerLiteral.ofString? text = IntegerLiteral.ofString? other := by
  have hread := literal.ofString?_render
  have hdigit : literal.render.toList.head?.any isDigit = true := by
    rw [← literal.text_numeral]
    exact literal.numeral.head_isDigit
  refine ⟨hread, lexesTo_integer preferences hdigit hread, fun text other => ?_⟩
  exact (Option.map_injective IntegerLiteral.render_injective).eq_iff

/-- The other marker of octal numerals, separators, capitals and leading zeros are not kept. -/
example : (IntegerLiteral.ofString? "0C_0017U8").map IntegerLiteral.render = some "0o17u8" := by
  decide +kernel

end VinylSyntax
