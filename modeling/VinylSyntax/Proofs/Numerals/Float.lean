import Mathlib.Data.List.Basic
import Mathlib.Tactic.Tauto
import VinylSyntax.Numeral.Float
import VinylSyntax.Proofs.Numerals.Integer

/-!
# The grammar of floating point numerals

A floating point numeral is one of two forms, with a suffix behind it (`FloatNumeral`), and the
reader accepts exactly these texts, once separators and letter case are removed
(`FloatLiteral.exists_ofChars?_iff`). No text is a numeral of both sorts
(`IntegerNumeral.not_float`).
-/

namespace VinylSyntax

open Numeral

/-- At least one digit and nothing else. -/
structure IsDigits (text : List Char) : Prop where
  ne_nil : text ≠ []
  isDigit : ∀ char ∈ text, isDigit char = true

/-- The exponent of a numeral: its mark, possibly a sign, and digits. -/
inductive IsExponent : List Char → Prop where
  | unsigned {digits : List Char} (hdigits : IsDigits digits) : IsExponent ('e' :: digits)
  | signed {sign : Char} {digits : List Char} (hsign : sign = '+' ∨ sign = '-')
      (hdigits : IsDigits digits) : IsExponent ('e' :: sign :: digits)

/-- A floating point numeral with the suffix of a kind: digits, a point, possibly more digits and
possibly an exponent, or digits and an exponent. -/
inductive FloatNumeral (kind : FloatKind) : List Char → Prop where
  | pointed {whole fraction exponent : List Char} (hwhole : IsDigits whole)
      (hfraction : ∀ char ∈ fraction, isDigit char = true)
      (hexponent : exponent = [] ∨ IsExponent exponent) :
      FloatNumeral kind (whole ++ '.' :: (fraction ++ (exponent ++ kind.suffix.toList)))
  | scientific {whole exponent : List Char} (hwhole : IsDigits whole)
      (hexponent : IsExponent exponent) :
      FloatNumeral kind (whole ++ (exponent ++ kind.suffix.toList))

/-- An exponent begins with its mark. -/
theorem IsExponent.exists_cons {text : List Char} (h : IsExponent text) :
    ∃ tail, text = 'e' :: tail := by
  cases h <;> exact ⟨_, rfl⟩

namespace FloatLiteral

/-- Every suffix of a floating point number begins with `f`. -/
theorem head_suffix {kind : FloatKind} {char : Char} {rest : List Char}
    (h : kind.suffix.toList = char :: rest) : char = 'f' := by
  revert h
  cases kind <;> simp [FloatKind.suffix] <;> rintro rfl <;> simp

/-- No suffix of a floating point number begins with a digit. -/
theorem takeWhile_suffix (kind : FloatKind) : kind.suffix.toList.takeWhile isDigit = [] := by
  cases kind <;> rfl

/-- A sign is split off a text, or there is none. -/
theorem splitSign_cases (text : List Char) :
    (∃ sign, (sign = '+' ∨ sign = '-') ∧ text = sign :: (splitSign text).2) ∨
      text = (splitSign text).2 := by
  unfold splitSign
  split
  · exact .inl ⟨'-', .inr rfl, rfl⟩
  · exact .inl ⟨'+', .inl rfl, rfl⟩
  · exact .inr rfl

/-- What the reader takes for an exponent is one. -/
theorem isExponent_of_splitExponent? {text rest : List Char} {exponent : Int}
    (h : splitExponent? text = some (exponent, rest)) :
    ∃ front, IsExponent front ∧ text = front ++ rest := by
  unfold splitExponent? at h
  split at h
  · next tail =>
    simp only at h
    split at h
    · cases h
    · next hempty =>
      obtain ⟨-, rfl⟩ := Prod.mk.inj (Option.some.inj h)
      have hdigits : IsDigits ((splitSign tail).2.takeWhile isDigit) :=
        ⟨by simpa using hempty, fun char hchar =>
          List.all_eq_true.1 List.all_takeWhile char hchar⟩
      have hbody := List.takeWhile_append_dropWhile (p := isDigit) (l := (splitSign tail).2)
      rcases splitSign_cases tail with ⟨sign, hsign, htail⟩ | htail
      · exact ⟨_, .signed hsign hdigits, by
          rw [List.cons_append, List.cons_append, hbody, ← htail]⟩
      · exact ⟨_, .unsigned hdigits, by rw [List.cons_append, hbody, ← htail]⟩
  · cases h

/-- The reader takes an exponent off a text that goes on with none of its digits. -/
theorem exists_splitExponent? {front rest : List Char} (h : IsExponent front)
    (hrest : rest.takeWhile isDigit = []) :
    ∃ exponent, splitExponent? (front ++ rest) = some (exponent, rest) := by
  suffices hsign : ∃ text digits, IsDigits digits ∧ front = 'e' :: text ∧
      (splitSign (text ++ rest)).2 = digits ++ rest by
    obtain ⟨text, digits, hdigits, rfl, hsplit⟩ := hsign
    obtain ⟨hrun, hbehind⟩ := span_run hdigits.isDigit hrest
    rw [List.cons_append]
    simp only [splitExponent?, hsplit, hrun, hbehind]
    rw [if_neg (by simpa using hdigits.ne_nil)]
    exact ⟨_, rfl⟩
  cases h with
  | @signed sign digits hsign hdigits =>
    refine ⟨sign :: digits, digits, hdigits, rfl, ?_⟩
    rcases hsign with rfl | rfl <;> rfl
  | @unsigned digits hdigits =>
    refine ⟨digits, digits, hdigits, rfl, ?_⟩
    obtain ⟨digit, others, rfl⟩ := List.exists_cons_of_ne_nil hdigits.ne_nil
    have hdigit := hdigits.isDigit digit (by simp)
    unfold splitSign
    split
    · next heq =>
      obtain ⟨rfl, -⟩ := List.cons.inj heq
      cases hdigit
    · next heq =>
      obtain ⟨rfl, -⟩ := List.cons.inj heq
      cases hdigit
    · rfl

/-- The suffix of a number that is made of its parts is that of its kind. -/
theorem suffix_of_ofParts? {whole fraction suffix : List Char} {exponent : Int}
    {literal : FloatLiteral} (h : ofParts? whole fraction exponent suffix = some literal) :
    suffix = literal.kind.suffix.toList := by
  obtain ⟨kind, hkind, rfl⟩ := Option.map_eq_some_iff.1 h
  rw [← FloatKind.ofSuffix?_eq_some_iff.1 hkind, String.toList_ofList]

/-- Parts with the suffix of a kind make a number of that kind. -/
theorem exists_ofParts? (whole fraction : List Char) (exponent : Int) (kind : FloatKind) :
    ∃ value, ofParts? whole fraction exponent kind.suffix.toList = some ⟨value, kind⟩ := by
  rw [ofParts?, String.ofList_toList, FloatKind.ofSuffix?_eq_some_iff.2 rfl]
  exact ⟨_, rfl⟩

/-- The reader gives the numerals of floating point numbers only. -/
theorem numeral_of_ofChars? {text : List Char} {literal : FloatLiteral}
    (h : ofChars? text = some literal) : FloatNumeral literal.kind (normalize text) := by
  have hbody := List.takeWhile_append_dropWhile (p := isDigit) (l := normalize text)
  have hrun : ∀ body : List Char, ∀ char ∈ body.takeWhile isDigit, isDigit char = true :=
    fun body => List.all_eq_true.1 List.all_takeWhile
  unfold ofChars? at h
  simp only at h
  split at h
  · cases h
  · next hempty =>
    have hwhole : IsDigits ((normalize text).takeWhile isDigit) :=
      ⟨by simpa using hempty, hrun _⟩
    split at h
    · next rest hpoint =>
      rw [hpoint, ← List.takeWhile_append_dropWhile (p := isDigit) (l := rest)] at hbody
      split at h
      · next tail hexponent =>
        obtain ⟨⟨exponent, suffix⟩, hsplit, hparts⟩ := Option.bind_eq_some_iff.1 h
        obtain ⟨front, hfront, htail⟩ := isExponent_of_splitExponent? hsplit
        obtain rfl : suffix = literal.kind.suffix.toList := suffix_of_ofParts? hparts
        rw [hexponent, htail] at hbody
        rw [← hbody]
        exact .pointed hwhole (hrun _) (.inr hfront)
      · rw [suffix_of_ofParts? h] at hbody
        rw [← hbody]
        show FloatNumeral literal.kind (_ ++ '.' :: (_ ++ ([] ++ _)))
        exact .pointed hwhole (hrun _) (.inl rfl)
    · obtain ⟨⟨exponent, suffix⟩, hsplit, hparts⟩ := Option.bind_eq_some_iff.1 h
      obtain ⟨front, hfront, hrest⟩ := isExponent_of_splitExponent? hsplit
      obtain rfl : suffix = literal.kind.suffix.toList := suffix_of_ofParts? hparts
      rw [hrest] at hbody
      rw [← hbody]
      exact .scientific hwhole hfront

/-- The reader of floating point numbers accepts exactly their numerals. -/
theorem exists_ofChars?_iff {text : List Char} {kind : FloatKind} :
    (∃ value, ofChars? text = some ⟨value, kind⟩) ↔ FloatNumeral kind (normalize text) := by
  constructor
  · rintro ⟨value, h⟩
    exact numeral_of_ofChars? h
  · intro h
    generalize hbody : normalize text = body at h
    have hsuffix := takeWhile_suffix kind
    cases h with
    | @pointed whole fraction exponent hwhole hfraction hexponent =>
      have hpoint : ('.' :: (fraction ++ (exponent ++ kind.suffix.toList))).takeWhile isDigit =
        [] := rfl
      obtain ⟨hrun, hbehind⟩ := span_run hwhole.isDigit hpoint
      have htail : (exponent ++ kind.suffix.toList).takeWhile isDigit = [] := by
        rcases hexponent with rfl | hexponent
        · exact hsuffix
        · obtain ⟨tail, rfl⟩ := hexponent.exists_cons
          rfl
      obtain ⟨hrun', hbehind'⟩ := span_run hfraction htail
      simp only [ofChars?, hbody, hrun, hbehind, hrun', hbehind']
      rw [if_neg (by simpa using hwhole.ne_nil)]
      rcases hexponent with rfl | hexponent
      · split
        · next heq => exact absurd (head_suffix heq) (by decide)
        · exact exists_ofParts? whole fraction 0 kind
      · obtain ⟨magnitude, hsplit⟩ := exists_splitExponent? hexponent hsuffix
        obtain ⟨tail, rfl⟩ := hexponent.exists_cons
        rw [List.cons_append] at hsplit ⊢
        simp only [hsplit]
        exact exists_ofParts? whole fraction magnitude kind
    | @scientific whole exponent hwhole hexponent =>
      obtain ⟨magnitude, hsplit⟩ := exists_splitExponent? hexponent hsuffix
      obtain ⟨tail, rfl⟩ := hexponent.exists_cons
      rw [List.cons_append] at hsplit hbody
      have hmark : ('e' :: (tail ++ kind.suffix.toList)).takeWhile isDigit = [] := rfl
      obtain ⟨hrun, hbehind⟩ := span_run hwhole.isDigit hmark
      simp only [ofChars?, hbody, hrun, hbehind]
      rw [if_neg (by simpa using hwhole.ne_nil)]
      split
      · next heq => simp at heq
      · simp only [hsplit]
        exact exists_ofParts? whole [] magnitude kind

end FloatLiteral

/-! ## Both sorts -/

/-- The characters of an exponent are digits, its mark and a sign. -/
theorem IsExponent.char_cases {text : List Char} {char : Char} (h : IsExponent text)
    (hchar : char ∈ text) : isDigit char = true ∨ char = 'e' ∨ char = '+' ∨ char = '-' := by
  cases h with
  | unsigned hdigits =>
    rcases List.mem_cons.1 hchar with rfl | hchar
    · simp
    · exact .inl (hdigits.isDigit char hchar)
  | signed hsign hdigits =>
    rcases List.mem_cons.1 hchar with rfl | hchar
    · simp
    · rcases List.mem_cons.1 hchar with rfl | hchar
      · exact .inr (.inr hsign)
      · exact .inl (hdigits.isDigit char hchar)

/-- A point is no part of digits, of exponents and of suffixes. -/
theorem notMem_point {digits exponent : List Char} (kind : FloatKind)
    (hdigits : ∀ char ∈ digits, isDigit char = true)
    (hexponent : exponent = [] ∨ IsExponent exponent) :
    '.' ∉ digits ++ (exponent ++ kind.suffix.toList) := by
  simp only [List.mem_append, not_or]
  refine ⟨fun hpoint => absurd (hdigits '.' hpoint) (by decide), fun hpoint => ?_,
    by cases kind <;> decide⟩
  rcases hexponent with rfl | hexponent
  · cases hpoint
  · exact absurd (hexponent.char_cases hpoint) (by decide)

namespace FloatNumeral

variable {kind : FloatKind} {text : List Char} {char : Char}

/-- The characters of a floating point numeral are digits, a point, the mark of an exponent, a sign
and the beginning of a suffix. -/
theorem char_cases (h : FloatNumeral kind text) (hchar : char ∈ text) :
    isDigit char = true ∨ char = '.' ∨ char = 'e' ∨ char = '+' ∨ char = '-' ∨ char = 'f' := by
  have hsuffix : char ∈ kind.suffix.toList → isDigit char = true ∨ char = 'f' := by
    have hall : kind.suffix.toList.all (fun char => isDigit char || char == 'f') = true := by
      cases kind <;> decide
    exact fun hmem => by simpa using List.all_eq_true.1 hall char hmem
  cases h with
  | pointed hwhole hfraction hexponent =>
    simp only [List.mem_append, List.mem_cons] at hchar
    rcases hchar with hchar | hchar | hchar | hchar | hchar
    · exact .inl (hwhole.isDigit char hchar)
    · exact .inr (.inl hchar)
    · exact .inl (hfraction char hchar)
    · rcases hexponent with rfl | hexponent
      · cases hchar
      · have := hexponent.char_cases hchar
        tauto
    · have := hsuffix hchar
      tauto
  | scientific hwhole hexponent =>
    simp only [List.mem_append] at hchar
    rcases hchar with hchar | hchar | hchar
    · exact .inl (hwhole.isDigit char hchar)
    · have := hexponent.char_cases hchar
      tauto
    · have := hsuffix hchar
      tauto

/-- Behind the digits that it begins with, a floating point numeral has a point or an exponent. -/
theorem behind_digits (h : FloatNumeral kind text) :
    ∃ rest, text.dropWhile isDigit = '.' :: rest ∨ text.dropWhile isDigit = 'e' :: rest := by
  cases h with
  | @pointed whole fraction exponent hwhole hfraction hexponent =>
    have hpoint : ('.' :: (fraction ++ (exponent ++ kind.suffix.toList))).takeWhile isDigit =
      [] := rfl
    exact ⟨_, .inl (span_run hwhole.isDigit hpoint).2⟩
  | @scientific whole exponent hwhole hexponent =>
    obtain ⟨tail, rfl⟩ := hexponent.exists_cons
    have hmark : ('e' :: tail ++ kind.suffix.toList).takeWhile isDigit = [] := rfl
    exact ⟨_, .inr (span_run hwhole.isDigit hmark).2⟩

/-- What stands behind a point is a digit, or begins an exponent or a suffix. -/
theorem behind_point (h : FloatNumeral kind text) {front rest : List Char} {next : Char}
    (htext : text = front ++ '.' :: next :: rest) :
    isDigit next = true ∨ next = 'e' ∨ next = 'f' := by
  cases h with
  | @pointed whole fraction exponent hwhole hfraction hexponent =>
    have hfront : '.' ∉ whole := fun hpoint =>
      absurd (hwhole.isDigit '.' hpoint) (by decide)
    obtain ⟨-, -, hbehind⟩ := (List.append_cons_inj_of_notMem hfront
      (notMem_point kind hfraction hexponent)).1 htext
    cases fraction with
    | cons digit fraction =>
      obtain ⟨rfl, -⟩ := List.cons.inj hbehind
      exact .inl (hfraction digit (by simp))
    | nil =>
      rcases hexponent with rfl | hexponent
      · exact .inr (.inr (FloatLiteral.head_suffix hbehind))
      · obtain ⟨tail, rfl⟩ := hexponent.exists_cons
        exact .inr (.inl (List.cons.inj hbehind).1.symm)
  | scientific hwhole hexponent =>
    exact absurd (htext ▸ by simp) (notMem_point kind hwhole.isDigit (.inr hexponent))

end FloatNumeral

/-- No text is both an integer numeral and one of a floating point number. -/
theorem IntegerNumeral.not_float (numeral : IntegerNumeral) (kind : FloatKind) :
    ¬ FloatNumeral kind numeral.text := by
  intro h
  obtain ⟨rest, hrest | hrest⟩ := h.behind_digits
  · exact (behind_digits hrest).1 rfl
  · exact (behind_digits hrest).2 rfl

/-- No floating point number is read from what an integer is read from. -/
theorem IntegerLiteral.float_eq_none {text : List Char} {literal : IntegerLiteral}
    (h : ofChars? text = some literal) : FloatLiteral.ofChars? text = none := by
  obtain ⟨numeral, htext, -⟩ := ofChars?_eq_some_iff.1 h
  cases hfloat : FloatLiteral.ofChars? text with
  | none => rfl
  | some float =>
    have hnumeral := FloatLiteral.numeral_of_ofChars? hfloat
    exact absurd (htext ▸ hnumeral) (numeral.not_float float.kind)

end VinylSyntax
