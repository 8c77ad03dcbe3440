import Mathlib.Data.Nat.Digits.Defs
import VinylSyntax.Numeral.Integer

/-!
# The grammar of integer numerals

The reader of numerals takes a text apart from its front. Here the numerals are put together of
their parts instead: a marker of the base, digits of the base and the suffix of a kind
(`IntegerNumeral`). The reader accepts exactly these texts, once separators and letter case are
removed (`IntegerLiteral.ofChars?_eq_some_iff`), and no two numerals have the same text
(`IntegerNumeral.text_injective`).
-/

namespace VinylSyntax

open Numeral

/-- A run of characters that pass a test, in front of a text that begins with none, is split off. -/
theorem span_run {test : Char → Bool} {run rest : List Char}
    (hrun : ∀ char ∈ run, test char = true) (hrest : rest.takeWhile test = []) :
    (run ++ rest).takeWhile test = run ∧ (run ++ rest).dropWhile test = rest := by
  have hdrop : rest.dropWhile test = rest := by
    have happend := List.takeWhile_append_dropWhile (p := test) (l := rest)
    rwa [hrest, List.nil_append] at happend
  exact ⟨by rw [List.takeWhile_append_of_pos hrun, hrest, List.append_nil],
    by rw [List.dropWhile_append_of_pos hrun, hdrop]⟩

/-- The characters of a text other than `_` are matched in lower case. -/
theorem toLower_mem_normalize {text : List Char} {char : Char} (h : char ∈ text)
    (hother : char ≠ '_') : char.toLower ∈ normalize text :=
  List.mem_map_of_mem (List.mem_filter.2 ⟨h, by simpa using hother⟩)

/-! ## Digits -/

namespace IntegerBase

/-- What can stand in front of the digits of a base. -/
def markers : IntegerBase → List String
  | .binary => ["0b"]
  | .octal => ["0o", "0c"]
  | .decimal => [""]
  | .hexadecimal => ["0x"]

/-- A marker is empty, or a zero and a character that is neither a digit nor behind the digits of
floating point numerals. -/
theorem marker_cases {base : IntegerBase} {marker : String} (h : marker ∈ base.markers) :
    (base = .decimal ∧ marker = "") ∨
      ∃ mark, marker.toList = ['0', mark] ∧ isDigit mark = false ∧ mark ≠ '.' ∧ mark ≠ 'e' := by
  cases base with
  | decimal => exact .inl ⟨rfl, List.mem_singleton.1 h⟩
  | binary =>
    rw [List.mem_singleton.1 h]
    exact .inr ⟨'b', by decide⟩
  | hexadecimal =>
    rw [List.mem_singleton.1 h]
    exact .inr ⟨'x', by decide⟩
  | octal =>
    have hmarker : marker = "0o" ∨ marker = "0c" := by simpa [markers] using h
    rcases hmarker with rfl | rfl
    · exact .inr ⟨'o', by decide⟩
    · exact .inr ⟨'c', by decide⟩

/-- The digits of a base, by rising value. -/
def digits (base : IntegerBase) : List Char := "0123456789abcdef".toList.take base.radix

variable {base : IntegerBase} {char : Char}

/-- The value of a digit is its place among the digits of its base. -/
theorem digitValue_of_mem (h : char ∈ base.digits) : digitValue char = base.digits.idxOf char := by
  have hall : base.digits.all (fun char => digitValue char == base.digits.idxOf char) = true := by
    cases base <;> decide
  exact beq_iff_eq.1 (List.all_eq_true.1 hall char h)

/-- The digits of a base are those that the reader takes. -/
theorem isDigitIn_iff : isDigitIn base.radix char = true ↔ char ∈ base.digits := by
  constructor
  · intro h
    have hascii : char.toNat < 0x80 := by
      rw [isDigitIn, Bool.and_eq_true, Bool.or_eq_true] at h
      rcases h.1 with hdigit | hletter
      · have hrange : '0' ≤ char ∧ char ≤ '9' := by simpa [isDigit] using hdigit
        exact Nat.lt_of_le_of_lt hrange.2 (by decide)
      · have hrange : 'a' ≤ char ∧ char ≤ 'f' := by simpa using hletter
        exact Nat.lt_of_le_of_lt hrange.2 (by decide)
    have hall : ∀ n < 0x80, isDigitIn base.radix (Char.ofNat n) = true →
        Char.ofNat n ∈ base.digits := by
      cases base <;> decide +kernel
    have hchar := hall char.toNat hascii
    rw [Char.ofNat_toNat] at hchar
    exact hchar h
  · intro h
    have hall : base.digits.all (isDigitIn base.radix) = true := by cases base <;> decide
    exact List.all_eq_true.1 hall char h

end IntegerBase

/-- The positional value of a run, with the least digit first. -/
theorem positional_eq_ofDigits (radix : Nat) (digits : List Char) :
    positional radix digits = Nat.ofDigits radix (digits.reverse.map digitValue) := by
  rw [positional, List.foldl_eq_foldr_reverse, Nat.ofDigits_eq_foldr, List.foldr_map]
  simp only [Nat.cast_id, Nat.mul_comm, Nat.add_comm]

/-! ## Integer numerals -/

/-- An integer numeral by its parts: a marker of the base, digits of the base, and the suffix of a
kind. -/
structure IntegerNumeral where
  base : IntegerBase
  marker : String
  digits : List Char
  kind : IntegerKind
  marker_mem : marker ∈ base.markers
  digits_ne_nil : digits ≠ []
  digits_mem : ∀ digit ∈ digits, digit ∈ base.digits

namespace IntegerNumeral

/-- The characters of a numeral. -/
def text (numeral : IntegerNumeral) : List Char :=
  numeral.marker.toList ++ (numeral.digits ++ numeral.kind.suffix.toList)

/-- The positional value of the digits of a numeral, where the last digit counts least. -/
def value (numeral : IntegerNumeral) : Nat :=
  Nat.ofDigits numeral.base.radix (numeral.digits.reverse.map numeral.base.digits.idxOf)

/-- What a numeral stands for. -/
def literal (numeral : IntegerNumeral) : IntegerLiteral :=
  ⟨numeral.value, numeral.base, numeral.kind⟩

/-- The digits of a numeral have the value of the numeral. -/
theorem valueOf_digits (numeral : IntegerNumeral) :
    valueOf numeral.base.radix numeral.digits = numeral.value := by
  rw [valueOf_eq_positional, positional_eq_ofDigits, value]
  refine congrArg _ (List.map_congr_left fun digit hdigit => ?_)
  exact IntegerBase.digitValue_of_mem (numeral.digits_mem digit (List.mem_reverse.1 hdigit))

/-- The reader splits digits and suffix of a numeral where they meet. -/
theorem span_digits (numeral : IntegerNumeral) :
    (numeral.digits ++ numeral.kind.suffix.toList).takeWhile (isDigitIn numeral.base.radix) =
        numeral.digits ∧
      (numeral.digits ++ numeral.kind.suffix.toList).dropWhile (isDigitIn numeral.base.radix) =
        numeral.kind.suffix.toList := by
  refine span_run (fun digit hdigit => ?_) ?_
  · exact IntegerBase.isDigitIn_iff.2 (numeral.digits_mem digit hdigit)
  · generalize numeral.base = base, numeral.kind = kind
    cases base <;> cases kind <;> decide

/-- Every suffix of an integer begins with `i` or `u`. -/
theorem head_suffix {kind : IntegerKind} {char : Char} {rest : List Char}
    (h : kind.suffix.toList = char :: rest) : char = 'i' ∨ char = 'u' := by
  revert h
  cases kind <;> simp [IntegerKind.suffix] <;> rintro rfl <;> simp

/-- No marker can be read into the digits and the suffix of a decimal numeral. -/
theorem splitMarker_decimal {numeral : IntegerNumeral} (h : numeral.base = .decimal) :
    IntegerBase.splitMarker (numeral.digits ++ numeral.kind.suffix.toList) =
      (.decimal, numeral.digits ++ numeral.kind.suffix.toList) := by
  obtain ⟨digit, digits, hdigits⟩ := List.exists_cons_of_ne_nil numeral.digits_ne_nil
  have hmem := numeral.digits_mem
  rw [h, hdigits] at hmem
  have hmark : ∀ mark rest, numeral.digits ++ numeral.kind.suffix.toList = '0' :: mark :: rest →
      mark ≠ 'b' ∧ mark ≠ 'o' ∧ mark ≠ 'c' ∧ mark ≠ 'x' := by
    intro mark rest htext
    rw [hdigits, List.cons_append] at htext
    obtain ⟨-, htext⟩ := List.cons.inj htext
    cases digits with
    | nil => rcases head_suffix htext with rfl | rfl <;> decide
    | cons second digits =>
      obtain ⟨rfl, -⟩ := List.cons.inj htext
      have hsecond := hmem second (by simp)
      refine ⟨?_, ?_, ?_, ?_⟩ <;> rintro rfl <;> revert hsecond <;> decide
  unfold IntegerBase.splitMarker
  split
  · next htext => exact absurd rfl (hmark _ _ htext).1
  · next htext => exact absurd rfl (hmark _ _ htext).2.1
  · next htext => exact absurd rfl (hmark _ _ htext).2.2.1
  · next htext => exact absurd rfl (hmark _ _ htext).2.2.2
  · rfl

/-- The reader splits a numeral behind its marker, and tells its base. -/
theorem splitMarker_text (numeral : IntegerNumeral) :
    IntegerBase.splitMarker numeral.text =
      (numeral.base, numeral.digits ++ numeral.kind.suffix.toList) := by
  have hmarker := numeral.marker_mem
  rw [text]
  cases hbase : numeral.base with
  | decimal =>
    rw [hbase] at hmarker
    rw [List.mem_singleton.1 hmarker]
    exact splitMarker_decimal hbase
  | binary =>
    rw [hbase] at hmarker
    rw [List.mem_singleton.1 hmarker]
    rfl
  | hexadecimal =>
    rw [hbase] at hmarker
    rw [List.mem_singleton.1 hmarker]
    rfl
  | octal =>
    rw [hbase] at hmarker
    have hmark : numeral.marker = "0o" ∨ numeral.marker = "0c" := by
      simpa [IntegerBase.markers] using hmarker
    rcases hmark with hmark | hmark <;> rw [hmark] <;> rfl

/-- A text is taken apart into the parts of a numeral in one way only. -/
theorem text_injective : Function.Injective text := by
  intro numeral other h
  have hsplit := numeral.splitMarker_text
  rw [h, other.splitMarker_text] at hsplit
  obtain ⟨hbase, hbody⟩ := Prod.mk.inj hsplit
  obtain ⟨hdigits, hsuffix⟩ := numeral.span_digits
  obtain ⟨hdigits', hsuffix'⟩ := other.span_digits
  rw [hbase, hbody] at hdigits' hsuffix'
  have hdigits := hdigits.symm.trans hdigits'
  have hkind : numeral.kind = other.kind := by
    have hsuffixes := String.toList_inj.1 (hsuffix.symm.trans hsuffix')
    have hread := IntegerKind.ofSuffix?_eq_some_iff.2 hsuffixes
    rw [IntegerKind.ofSuffix?_eq_some_iff.2 rfl] at hread
    exact Option.some.inj hread
  have hmarker : numeral.marker = other.marker := by
    rw [text, text, hbody] at h
    exact String.toList_inj.1 (List.append_cancel_right h)
  cases numeral
  cases other
  simp_all

/-- The characters of integer numerals: digits, and the letters of markers and suffixes. -/
def alphabet : List Char := "0123456789abcdefoxiuz".toList

/-- The characters of a numeral are in the alphabet of numerals. -/
theorem mem_alphabet {numeral : IntegerNumeral} {char : Char} (h : char ∈ numeral.text) :
    char ∈ alphabet := by
  rcases List.mem_append.1 h with hmarker | hbody
  · have hall : numeral.base.markers.all (fun marker => marker.toList.all (alphabet.contains ·)) =
        true := by
      cases numeral.base <;> decide
    have hmarkers := List.all_eq_true.1 hall _ numeral.marker_mem
    exact List.contains_iff_mem.1 (List.all_eq_true.1 hmarkers char hmarker)
  · rcases List.mem_append.1 hbody with hdigit | hsuffix
    · have hall : numeral.base.digits.all (alphabet.contains ·) = true := by
        cases numeral.base <;> decide
      exact List.contains_iff_mem.1
        (List.all_eq_true.1 hall char (numeral.digits_mem char hdigit))
    · have hall : numeral.kind.suffix.toList.all (alphabet.contains ·) = true := by
        cases numeral.kind <;> decide
      exact List.contains_iff_mem.1 (List.all_eq_true.1 hall char hsuffix)

/-- Integer numerals are made of ASCII letters and digits; `k` is not among them. -/
theorem isAlphanum_of_mem_text {numeral : IntegerNumeral} {char : Char}
    (h : char ∈ numeral.text) : char.isAlphanum = true ∧ char ≠ 'k' := by
  have hall : alphabet.all (fun char => char.isAlphanum && char != 'k') = true := by decide
  simpa using List.all_eq_true.1 hall char (mem_alphabet h)

/-- Behind the digits that it begins with, an integer numeral has no point and no exponent. -/
theorem behind_digits {numeral : IntegerNumeral} {char : Char} {rest : List Char}
    (h : numeral.text.dropWhile isDigit = char :: rest) : char ≠ '.' ∧ char ≠ 'e' := by
  rcases IntegerBase.marker_cases numeral.marker_mem with
    ⟨hbase, hmarker⟩ | ⟨mark, hmarker, hdigit, hmark⟩
  · have hdigits : ∀ digit ∈ numeral.digits, isDigit digit = true := by
      have hall : IntegerBase.decimal.digits.all isDigit = true := by decide
      exact fun digit hdigit =>
        List.all_eq_true.1 hall digit (hbase ▸ numeral.digits_mem digit hdigit)
    have hsuffix : numeral.kind.suffix.toList.takeWhile isDigit = [] := by
      cases numeral.kind <;> decide
    rw [text, hmarker, String.toList_empty, List.nil_append, (span_run hdigits hsuffix).2] at h
    rcases head_suffix h with rfl | rfl <;> decide
  · rw [text, hmarker, List.cons_append, List.cons_append, List.dropWhile_cons_of_pos rfl,
      List.dropWhile_cons_of_neg (by simp [hdigit])] at h
    exact (List.cons.inj h).1 ▸ hmark

end IntegerNumeral

/-- A marker is split off a text, or nothing is. -/
theorem IntegerBase.exists_marker (text : List Char) :
    ∃ marker ∈ (splitMarker text).1.markers, text = marker.toList ++ (splitMarker text).2 := by
  unfold splitMarker
  split
  · exact ⟨"0b", by simp [markers], rfl⟩
  · exact ⟨"0o", by simp [markers], rfl⟩
  · exact ⟨"0c", by simp [markers], rfl⟩
  · exact ⟨"0x", by simp [markers], rfl⟩
  · exact ⟨"", by simp [markers], rfl⟩

/-- The reader of integers accepts the integer numerals, and gives what they stand for. -/
theorem IntegerLiteral.ofChars?_eq_some_iff {text : List Char} {literal : IntegerLiteral} :
    ofChars? text = some literal ↔
      ∃ numeral : IntegerNumeral, numeral.text = normalize text ∧ numeral.literal = literal := by
  constructor
  · intro h
    obtain ⟨marker, hmarker, htext⟩ := IntegerBase.exists_marker (normalize text)
    simp only [ofChars?] at h
    generalize IntegerBase.splitMarker (normalize text) = split at h hmarker htext
    obtain ⟨base, body⟩ := split
    simp only at h hmarker htext
    split at h
    · cases h
    · next hdigits =>
      obtain ⟨kind, hkind, rfl⟩ := Option.map_eq_some_iff.1 h
      rw [IntegerKind.ofSuffix?_eq_some_iff] at hkind
      let numeral : IntegerNumeral :=
        { base, marker, kind
          digits := body.takeWhile (isDigitIn base.radix)
          marker_mem := hmarker
          digits_ne_nil := by simpa using hdigits
          digits_mem := fun digit hdigit =>
            IntegerBase.isDigitIn_iff.1 (List.all_eq_true.1 List.all_takeWhile digit hdigit) }
      refine ⟨numeral, ?_, ?_⟩
      · rw [htext, ← List.takeWhile_append_dropWhile (p := isDigitIn base.radix) (l := body)]
        show marker.toList ++ (_ ++ kind.suffix.toList) = _
        rw [← hkind, String.toList_ofList]
      · show IntegerLiteral.mk numeral.value base kind = _
        rw [← numeral.valueOf_digits]
  · rintro ⟨numeral, htext, rfl⟩
    obtain ⟨hdigits, hsuffix⟩ := numeral.span_digits
    simp only [ofChars?, ← htext, numeral.splitMarker_text, hdigits, hsuffix]
    rw [if_neg (by simpa using numeral.digits_ne_nil), String.ofList_toList,
      IntegerKind.ofSuffix?_eq_some_iff.2 rfl, numeral.valueOf_digits]
    rfl

/-- Lowering the case makes letters of letters only. -/
theorem isAlphanum_of_toLower {char : Char} (h : char.toLower.isAlphanum = true) :
    char.isAlphanum = true := by
  unfold Char.toLower at h
  split at h
  · next hupper => exact isAlphanum_iff.2 (.inl hupper)
  · exact h

/-- What an integer is read from is made of ASCII letters, digits and separators. -/
theorem IntegerLiteral.isAlphanum_of_mem {text : List Char} {literal : IntegerLiteral}
    (h : ofChars? text = some literal) {char : Char} (hchar : char ∈ text) :
    char.isAlphanum = true ∨ char = '_' := by
  obtain ⟨numeral, htext, -⟩ := ofChars?_eq_some_iff.1 h
  by_cases hseparator : char = '_'
  · exact .inr hseparator
  · have hnormal := toLower_mem_normalize hchar hseparator
    rw [← htext] at hnormal
    exact .inl (isAlphanum_of_toLower (IntegerNumeral.isAlphanum_of_mem_text hnormal).1)

end VinylSyntax
