import VinylSyntax.Proofs.Abutting
import VinylSyntax.Proofs.Numerals.Decoding
import VinylSyntax.Proofs.Singles

/-!
# Numerals that are lexed whole

The readers of numerals accept separators between any two characters and points without digits
behind them, while the scan that cuts off a number stops at a separator that it cannot tell from a
symbol. So an integer numeral is always lexed whole, but one of a floating point number only if its
points and signs are `Compact`: see `lexesTo_numeral`.
-/

namespace VinylSyntax

open Numeral

/-- Every point of a text stands directly behind a digit and not in front of `_` or of the letter
of a suffix, and every sign directly behind the mark of an exponent. -/
structure Compact (text : List Char) : Prop where
  point_digit : ∀ place, text[place]? = some '.' →
    ∃ before char, place = before + 1 ∧ text[before]? = some char ∧ isDigit char = true
  point_next : ∀ place next, text[place]? = some '.' → text[place + 1]? = some next →
    next ≠ '_' ∧ next ≠ 'f' ∧ next ≠ 'F'
  sign_exponent : ∀ place, text[place]? = some '+' ∨ text[place]? = some '-' →
    ∃ before, place = before + 1 ∧ (text[before]? = some 'e' ∨ text[before]? = some 'E')

/-! ## All of a text -/

/-- Nothing is left behind a number if and only if numbers end nowhere in the text. -/
theorem Lexeme.rest_eq_nil_iff {first : Char} (h : isDigit first = true) (tail : List Char) :
    (split first tail).2 = [] ↔ ∀ place, ¬ NumberEndsAt (first :: tail) place := by
  obtain ⟨lexeme, rest, hsplit, hcut, hruns⟩ := exists_number h tail
  have hruns := hruns []
  rw [List.nil_append, List.length_nil, Nat.zero_add] at hruns
  rw [hsplit]
  constructor
  · rintro rfl place hends
    rw [List.append_nil] at hcut
    obtain ⟨char, hchar, hseparator⟩ := hends.separator
    cases place with
    | zero =>
      obtain rfl : first = char := by simpa using hchar
      simp [isSeparator_of_isAlphanum (isAlphanum_of_isDigit h)] at hseparator
    | succ place =>
      obtain ⟨hlt, -⟩ := List.getElem?_eq_some_iff.1 hchar
      exact hruns.passes _ (Nat.succ_pos place) (hcut ▸ hlt) hends
  · intro hnowhere
    have hall := hruns.ends.resolve_right (hnowhere _)
    rw [hcut, List.length_append] at hall
    show rest = []
    exact List.eq_nil_of_length_eq_zero (by omega)

/-- A text that begins with a digit is lexed to a single number if and only if numbers end nowhere
in it, and it makes a number. -/
theorem lexesTo_iff_nowhere {preferences : LexicalPreferences} {text : String} {kind : TokenKind}
    (hdigit : text.toList.head?.any isDigit = true)
    (hkind : (Lexeme.number text.toList).kind? = some kind) :
    LexesTo preferences text kind ↔ ∀ place, ¬ NumberEndsAt text.toList place := by
  have hcomment : kind ≠ .comment := by
    rintro rfl
    revert hkind
    simp only [Lexeme.kind?]
    split <;> simp
  rw [lexesTo_iff hcomment]
  cases htext : text.toList with
  | nil => simp [htext] at hdigit
  | cons first tail =>
    have hfirst : isDigit first = true := by simpa [htext] using hdigit
    rw [← Lexeme.rest_eq_nil_iff hfirst tail]
    constructor
    · rintro ⟨_, _, heq, -, hrest, -⟩
      obtain ⟨rfl, rfl⟩ := List.cons.inj heq
      exact hrest
    · intro hrest
      obtain ⟨lexeme, rest, hsplit, hcut, -⟩ := Lexeme.exists_number hfirst tail
      rw [hsplit] at hrest
      rw [show rest = [] from hrest, List.append_nil, ← htext] at hcut
      exact ⟨first, tail, rfl, isBlank_of_isAlphanum (isAlphanum_of_isDigit hfirst),
        by rw [hsplit]; exact hrest, by rw [hsplit, ← hcut]; exact hkind⟩

/-! ## Floating point numbers -/

/-- Separators have no case. -/
theorem toLower_of_isSeparator {char : Char} (h : isSeparator char = true) :
    char.toLower = char := by
  unfold Char.toLower
  split
  · next hupper =>
    have halphanum : char.isAlphanum = true := isAlphanum_iff.2 (.inl hupper)
    simp [isSeparator_of_isAlphanum halphanum] at h
  · rfl

/-- The digits and letters that may follow a point, before they are lowered. -/
theorem behind_point_of_toLower {next : Char}
    (h : isDigit next.toLower = true ∨ next.toLower = 'e' ∨ next.toLower = 'f') :
    isDigit next = true ∨ next = 'e' ∨ next = 'E' ∨ next = 'f' ∨ next = 'F' := by
  have hascii : next.toNat < 0x80 := by
    refine toNat_lt_of_toLower ?_
    rcases h with hdigit | hmark | hmark
    · exact toNat_lt_of_isAlphanum (isAlphanum_of_isDigit hdigit)
    all_goals rw [hmark]; decide
  have hall : ∀ n < 0x80,
      isDigit (Char.ofNat n).toLower = true ∨ (Char.ofNat n).toLower = 'e' ∨
        (Char.ofNat n).toLower = 'f' →
      isDigit (Char.ofNat n) = true ∨ Char.ofNat n = 'e' ∨ Char.ofNat n = 'E' ∨
        Char.ofNat n = 'f' ∨ Char.ofNat n = 'F' := by
    decide +kernel
  have hnext := hall next.toNat hascii
  rw [Char.ofNat_toNat] at hnext
  exact hnext h

namespace FloatNumeral

variable {kind : FloatKind} {text : List Char}

/-- The separators in a floating point numeral are points and signs. -/
theorem separator_cases (h : FloatNumeral kind (normalize text)) {char : Char}
    (hchar : char ∈ text) (hseparator : isSeparator char = true) :
    char = '.' ∨ char = '+' ∨ char = '-' := by
  have hother : char ≠ '_' := by
    rintro rfl
    exact absurd hseparator (by decide)
  have hnormal := toLower_mem_normalize hchar hother
  rw [toLower_of_isSeparator hseparator] at hnormal
  rcases h.char_cases hnormal with hdigit | rfl | rfl | rfl | rfl | rfl
  · simp [isSeparator_of_isAlphanum (isAlphanum_of_isDigit hdigit)] at hseparator
  · simp
  · exact absurd hseparator (by decide)
  · simp
  · simp
  · exact absurd hseparator (by decide)

/-- Behind a point there is a digit, an exponent or a suffix, possibly after separators. -/
theorem next_cases (h : FloatNumeral kind (normalize text)) {place : Nat} {next : Char}
    (hpoint : text[place]? = some '.') (hnext : text[place + 1]? = some next)
    (hother : next ≠ '_') :
    isDigit next = true ∨ next = 'e' ∨ next = 'E' ∨ next = 'f' ∨ next = 'F' := by
  obtain ⟨hlt, hdot⟩ := List.getElem?_eq_some_iff.1 hpoint
  obtain ⟨hlt', hchar⟩ := List.getElem?_eq_some_iff.1 hnext
  have hcut := (List.take_append_drop place text).symm
  rw [List.drop_eq_getElem_cons hlt, List.drop_eq_getElem_cons hlt', hdot, hchar] at hcut
  have hnormal : normalize text = normalize (text.take place) ++
      '.' :: next.toLower :: normalize (text.drop (place + 1 + 1)) := by
    conv_lhs => rw [hcut]
    simp [Numeral.normalize, hother]
  exact behind_point_of_toLower (h.behind_point hnormal)

/-- Numbers end nowhere in a floating point numeral if and only if it is compact. -/
theorem compact_iff (h : FloatNumeral kind (normalize text)) :
    (∀ place, ¬ NumberEndsAt text place) ↔ Compact text := by
  constructor
  · intro hnowhere
    -- Points and signs are separators, so each of them has to be one of its numeral.
    have hpoint : ∀ place, text[place]? = some '.' → PointAt text place := by
      intro place hplace
      by_contra hother
      refine hnowhere place ⟨⟨'.', hplace, by decide⟩, fun hsign => ?_, hother⟩
      simpa [hplace] using hsign.sign
    refine ⟨fun place hplace => (hpoint place hplace).digit, fun place next hplace hnext => ?_,
      fun place hplace => ?_⟩
    · have hcontinues := (hpoint place hplace).continues next hnext
      refine ⟨?_, ?_, ?_⟩ <;> rintro rfl <;> revert hcontinues <;> decide
    · by_contra hother
      obtain ⟨char, hchar, hseparator⟩ : ∃ char, text[place]? = some char ∧
          isSeparator char = true := by
        rcases hplace with hplace | hplace <;> exact ⟨_, hplace, by decide⟩
      refine hnowhere place ⟨⟨char, hchar, hseparator⟩, fun hsign => hother hsign.exponent, ?_⟩
      rintro ⟨hdot, -, -⟩
      simp [hdot] at hplace
  · rintro hcompact place ⟨⟨char, hchar, hseparator⟩, hsign, hpoint⟩
    rcases h.separator_cases (List.mem_of_getElem? hchar) hseparator with rfl | rfl | rfl
    · -- Only `_` and suffixes can stand between a point and what the scan accepts behind it.
      refine hpoint ⟨hchar, hcompact.point_digit place hchar, fun next hnext => ?_⟩
      obtain ⟨hseparated, hsuffix, hsuffix'⟩ := hcompact.point_next place next hchar hnext
      have hcases := h.next_cases hchar hnext hseparated
      tauto
    · exact hsign ⟨.inl hchar, hcompact.sign_exponent place (.inl hchar)⟩
    · exact hsign ⟨.inr hchar, hcompact.sign_exponent place (.inr hchar)⟩

end FloatNumeral

/-- A text that begins with a digit and decodes to an integer is lexed to that integer alone. -/
theorem lexesTo_integer (preferences : LexicalPreferences) {text : String}
    (hdigit : text.toList.head?.any isDigit = true) {literal : IntegerLiteral}
    (hliteral : IntegerLiteral.ofString? text = some literal) :
    LexesTo preferences text (.integer literal) := by
  have hfloat := (ofString?_disjoint text).resolve_left (by simp [hliteral])
  have hkind : (Lexeme.number text.toList).kind? = some (.integer literal) := by
    simp [Lexeme.kind?, Lexeme.text, hfloat, hliteral]
  refine (lexesTo_iff_nowhere hdigit hkind).2 fun place hends => ?_
  obtain ⟨char, hchar, -⟩ := hends.separator
  have hlt := (List.getElem?_eq_some_iff.1 hchar).1
  rw [← List.append_nil text.toList] at hends
  exact not_numberEndsAt_of_lt hliteral [] hlt hends

/-- A text that begins with a digit and decodes to an integer is lexed to that integer alone. One
that decodes to a floating point number is lexed to that number alone if and only if it is
compact. -/
theorem lexesTo_numeral (preferences : LexicalPreferences) {text : String}
    (hdigit : text.toList.head?.any isDigit = true) :
    (∀ literal, IntegerLiteral.ofString? text = some literal →
      LexesTo preferences text (.integer literal)) ∧
    ∀ literal, FloatLiteral.ofString? text = some literal →
      (LexesTo preferences text (.float literal) ↔ Compact text.toList) := by
  refine ⟨fun literal hliteral => lexesTo_integer preferences hdigit hliteral,
    fun literal hliteral => ?_⟩
  have hkind : (Lexeme.number text.toList).kind? = some (.float literal) := by
    simp [Lexeme.kind?, Lexeme.text, hliteral]
  rw [lexesTo_iff_nowhere hdigit hkind]
  exact (FloatLiteral.numeral_of_ofChars? hliteral).compact_iff

/-- Separators within digits do no harm, but one in front of the point ends the number. -/
theorem lexesTo_numeral_separated :
    LexesTo default "0C_1U8" (.integer ⟨1, .octal, .u8⟩) ∧
      LexesTo default "1_5.e-0_3F64" (.float ⟨⟨4579800533065604792⟩, .f64⟩) ∧
      FloatLiteral.ofString? "1_.5" = some ⟨⟨4609434218613702656⟩, .unsized⟩ ∧
      ¬ LexesTo default "1_.5" (.float ⟨⟨4609434218613702656⟩, .unsized⟩) := by
  have hinner : FloatLiteral.ofString? "1_5.e-0_3F64" = some ⟨⟨4579800533065604792⟩, .f64⟩ := by
    decide +kernel
  have hfront : FloatLiteral.ofString? "1_.5" = some ⟨⟨4609434218613702656⟩, .unsized⟩ := by
    decide +kernel
  have hoctal : IntegerLiteral.ofString? "0C_1U8" = some ⟨1, .octal, .u8⟩ := by decide +kernel
  refine ⟨(lexesTo_numeral default (by decide)).1 _ hoctal, ?_, hfront, fun hlexes => ?_⟩
  · have hplaces : ∀ place < 12,
        ("1_5.e-0_3F64".toList[place]? = some '.' → place = 3) ∧
        ("1_5.e-0_3F64".toList[place]? = some '+' ∨ "1_5.e-0_3F64".toList[place]? = some '-' →
          place = 5) := by decide
    have hpoint : ∀ place, "1_5.e-0_3F64".toList[place]? = some '.' → place = 3 := fun place h =>
      (hplaces place (List.getElem?_eq_some_iff.1 h).1).1 h
    have hcompact : Compact "1_5.e-0_3F64".toList := by
      refine ⟨fun place h => ?_, fun place next h hnext => ?_, fun place h => ?_⟩
      · obtain rfl := hpoint place h
        exact ⟨2, '5', rfl, rfl, rfl⟩
      · obtain rfl := hpoint place h
        obtain rfl : 'e' = next := Option.some.inj hnext
        decide
      · have hlt : place < 12 :=
          h.elim (fun h => (List.getElem?_eq_some_iff.1 h).1)
            fun h => (List.getElem?_eq_some_iff.1 h).1
        obtain rfl := (hplaces place hlt).2 h
        exact ⟨4, rfl, .inl rfl⟩
    exact ((lexesTo_numeral default (by decide)).2 _ hinner).2 hcompact
  · have hcompact := ((lexesTo_numeral default (by decide)).2 _ hfront).1 hlexes
    obtain ⟨before, char, hbefore, hchar, hdigit⟩ := hcompact.point_digit 2 rfl
    obtain rfl : 1 = before := Nat.succ.inj hbefore
    obtain rfl : '_' = char := Option.some.inj hchar
    cases hdigit

end VinylSyntax
