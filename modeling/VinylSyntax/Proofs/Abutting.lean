import VinylSyntax.Proofs.Extent
import VinylSyntax.Proofs.Numerals.Float

/-!
# Integers in front of symbols

The end of a number is found before its base is known. All characters of an integer numeral are
letters, digits and `_`, so a symbol directly behind it ends it (`tokenize_integer_symbol`), with
one exception: the last digit of a hexadecimal numeral may be the letter that marks the exponent of
a decimal one, and a sign behind it is taken for part of the number.
-/

namespace VinylSyntax

/-! ## In front of a symbol -/

/-- A symbol begins with a separator. -/
theorem Symbol.exists_spelling (symbol : Symbol) :
    ∃ first rest, symbol.spelling.toList = first :: rest ∧ isSeparator first = true := by
  cases symbol <;> exact ⟨_, _, rfl, by decide⟩

section

variable {text : List Char} {literal : IntegerLiteral} {symbol : Symbol}
  (hliteral : IntegerLiteral.ofChars? text = some literal)
  (hpoint : symbol.spelling.toList.head? ≠ some '.')

include hliteral in
/-- A number does not end within an integer. -/
theorem not_numberEndsAt_of_lt (rest : List Char) {place : Nat} (hplace : place < text.length) :
    ¬ NumberEndsAt (text ++ rest) place := by
  rintro ⟨⟨char, hchar, hseparator⟩, -, -⟩
  rw [List.getElem?_append_left hplace] at hchar
  rcases IntegerLiteral.isAlphanum_of_mem hliteral (List.mem_of_getElem? hchar) with halphanum | rfl
  · simp [isSeparator_of_isAlphanum halphanum] at hseparator
  · exact absurd hseparator (by decide)

include hpoint in
/-- A symbol ends the number in front of it unless it begins with the sign of an exponent. -/
theorem numberEndsAt_symbol : NumberEndsAt (text ++ symbol.spelling.toList) text.length ↔
    ¬ SignAt (text ++ symbol.spelling.toList) text.length := by
  obtain ⟨first, rest, hspelling, hseparator⟩ := symbol.exists_spelling
  rw [hspelling] at hpoint ⊢
  refine ⟨fun hends => hends.not_sign, fun hsign => ⟨⟨first, by simp, hseparator⟩, hsign, ?_⟩⟩
  rintro ⟨hfirst, -, -⟩
  exact hpoint (by simpa using hfirst)

include hliteral hpoint in
/-- The run of an integer ends in front of the symbol unless the symbol is taken for the sign of an
exponent. -/
theorem stop_eq_iff {stop : Nat} (hruns : NumberRuns (text ++ symbol.spelling.toList) 0 stop)
    (hnonempty : text ≠ []) :
    stop = text.length ↔ ¬ SignAt (text ++ symbol.spelling.toList) text.length := by
  rw [← numberEndsAt_symbol hpoint]
  obtain ⟨first, rest, hspelling, hseparator⟩ := symbol.exists_spelling
  constructor
  · rintro rfl
    exact hruns.ends.resolve_left (by simp [hspelling])
  · intro hends
    have hle : stop ≤ text.length := by
      by_cases hlt : text.length < stop
      · exact absurd hends (hruns.passes _ (List.length_pos_iff.2 hnonempty) hlt)
      · omega
    have hge : ¬ stop < text.length := by
      intro hlt
      rcases hruns.ends with hend | hend
      · rw [List.length_append] at hend
        omega
      · exact not_numberEndsAt_of_lt hliteral _ hlt hend
    omega

end

/-- A symbol is all that a text with nothing else in it is lexed to. -/
theorem Lexer.takeTokens_of_symbol {lexer : Lexer} {symbol : Symbol}
    (hfinished : lexer.finished = false) (hlimit : lexer.metrics.tokens < Limits.tokenCount)
    (hrest : lexer.cursor.rest = symbol.spelling.toList) :
    lexer.takeTokens.result = .ok [⟨.symbol symbol, symbol.spelling,
      ⟨lexer.location, lexer.location.advanceOver symbol.spelling.toList⟩⟩] := by
  obtain ⟨-, hstands⟩ := Token.standalone_ofSymbol symbol
  obtain ⟨first, tail, hspelling, -⟩ := symbol.exists_spelling
  rw [show (Token.ofSymbol symbol).text = symbol.spelling from rfl, hspelling] at hstands
  obtain ⟨hvisible, hall, htoken⟩ := hstands
  have hlexes : lexer.Lexes [] first tail :=
    lexes_of_rest hfinished hlimit (by simp) hvisible (hrest.trans hspelling)
  have htext : (Lexeme.split first tail).1.text = symbol.spelling.toList := by
    have happend := Lexeme.text_append_rest first tail
    rwa [hall, List.append_nil, ← hspelling] at happend
  have hitem := hlexes.item_eq
  rw [Lexeme.token_of_token _ htoken, htext] at hitem
  have hend : lexer.next.lexer.next.item = none := by
    rw [item_eq_none_iff hlexes.finished_next, hlexes.rest_next, hall]
    simp
  rw [takeTokens_of_token hitem, takeTokens_of_none hend]
  rfl

/-- An integer numeral that is cut off as a number is the next token. -/
theorem Lexer.Lexes.next_integer {lexer : Lexer} {gap text rest tail : List Char} {first : Char}
    {literal : IntegerLiteral} (h : lexer.Lexes gap first tail)
    (hcut : Lexeme.split first tail = (.number text, rest))
    (hliteral : IntegerLiteral.ofChars? text = some literal) :
    lexer.next.item = some (.ok ⟨.integer literal, .ofList text,
      ⟨lexer.location.advanceOver gap, lexer.location.advanceOver (gap ++ text)⟩⟩) ∧
      lexer.next.lexer.location = lexer.location.advanceOver (gap ++ text) ∧
      lexer.next.lexer.cursor.rest = rest := by
  have hkind : (Lexeme.number text).kind? = some (.integer literal) := by
    have hfloat : FloatLiteral.ofString? (.ofList text) = none := by
      rw [FloatLiteral.ofString?, String.toList_ofList, IntegerLiteral.float_eq_none hliteral]
    simp [Lexeme.kind?, Lexeme.text, hfloat, IntegerLiteral.ofString?, hliteral]
  refine ⟨?_, ?_, ?_⟩
  · rw [h.item_eq, hcut, Lexeme.token_eq_ok_iff.2 ⟨_, hkind, rfl⟩]
    rfl
  · rw [h.location_next, hcut]
    rfl
  · rw [h.rest_next, hcut]

/-- An integer numeral that begins with a digit and a symbol directly behind it, other than a point,
are lexed to the integer and the symbol, unless the symbol begins with a sign and the numeral ends
with the letter that marks an exponent. -/
theorem tokenize_integer_symbol (preferences : LexicalPreferences) {text : String}
    {literal : IntegerLiteral} {symbol : Symbol}
    (hdigit : text.toList.head?.any isDigit = true)
    (hliteral : IntegerLiteral.ofString? text = some literal)
    (hpoint : symbol.spelling.toList.head? ≠ some '.') :
    tokenize preferences (text ++ symbol.spelling) =
      .ok [⟨.integer literal, text, ⟨.start, Location.start.advanceOver text.toList⟩⟩,
        ⟨.symbol symbol, symbol.spelling, ⟨Location.start.advanceOver text.toList,
          Location.start.advanceOver (text ++ symbol.spelling).toList⟩⟩] ↔
      ¬ SignAt (text ++ symbol.spelling).toList text.length := by
  obtain ⟨first, inner, htext, hfirst⟩ : ∃ first inner,
      text.toList = first :: inner ∧ isDigit first = true := by
    cases htext : text.toList with
    | nil => simp [htext] at hdigit
    | cons first inner => exact ⟨first, inner, rfl, by simpa [htext] using hdigit⟩
  rw [String.toList_append, ← String.length_toList]
  obtain ⟨lexeme, rest, hcut, happend, hruns⟩ :=
    Lexeme.exists_number hfirst (inner ++ symbol.spelling.toList)
  have hruns := hruns []
  rw [← List.cons_append, ← htext] at happend hruns
  rw [List.nil_append, List.length_nil, Nat.zero_add] at hruns
  -- The symbol is a lexeme of its own just if the number ends in front of it.
  rw [← stop_eq_iff hliteral hpoint hruns (by simp [htext])]
  have hlexes : (Lexer.ofString preferences (text ++ symbol.spelling)).Lexes [] first
      (inner ++ symbol.spelling.toList) := by
    refine Lexer.lexes_of_rest rfl (show 0 < Limits.tokenCount by decide) (by simp)
      (isBlank_of_isAlphanum (isAlphanum_of_isDigit hfirst)) ?_
    rw [List.nil_append, ← List.cons_append, ← htext, ← String.toList_append]
    rfl
  constructor
  · intro hresult
    rcases Lexer.takeTokens_inv hresult with ⟨-, hnone⟩ | ⟨token, others, hitem, -, heq⟩
    · cases hnone
    · obtain ⟨rfl, -⟩ := List.cons.inj heq
      have hlexeme := hlexes.text_eq hitem
      rw [hcut] at hlexeme
      exact congrArg List.length hlexeme.symm
  · intro hlength
    obtain ⟨rfl, rfl⟩ := List.append_inj happend.symm hlength
    obtain ⟨hitem, hlocation, hrest⟩ := hlexes.next_integer hcut hliteral
    have hcount : (Lexer.ofString preferences (text ++ symbol.spelling)).next.lexer.metrics.tokens <
        Limits.tokenCount :=
      Nat.lt_of_le_of_lt hlexes.tokens_next (show 0 + 1 < Limits.tokenCount by decide)
    rw [String.ofList_toList, List.nil_append] at hitem
    rw [List.nil_append] at hlocation
    show (Lexer.ofString preferences (text ++ symbol.spelling)).takeTokens.result = _
    rw [Lexer.takeTokens_of_token hitem,
      Lexer.takeTokens_of_symbol hlexes.finished_next hcount hrest, hlocation,
      Location.advanceOver_append]
    rfl

/-- A hexadecimal numeral ends in front of an arrow if its last digit marks no exponent. -/
theorem tokenize_integer_symbol_arrow :
    tokenize default ("0xF" ++ Symbol.arrow.spelling) =
      .ok [⟨.integer ⟨15, .hexadecimal, .unsized⟩, "0xF", ⟨⟨1, 1⟩, ⟨1, 4⟩⟩⟩,
        ⟨.symbol .arrow, "->", ⟨⟨1, 4⟩, ⟨1, 6⟩⟩⟩] := by
  have hsign : ¬ SignAt ("0xF" ++ Symbol.arrow.spelling).toList "0xF".length := by
    rintro ⟨-, before, hbefore, hexponent⟩
    obtain rfl : before = 2 := (Nat.succ.inj hbefore).symm
    revert hexponent
    decide
  have hstop : Location.start.advanceOver "0xF".toList = ⟨1, 4⟩ := by decide
  have hend : Location.start.advanceOver ("0xF" ++ Symbol.arrow.spelling).toList = ⟨1, 6⟩ := by
    decide
  have hliteral : IntegerLiteral.ofString? "0xF" = some ⟨15, .hexadecimal, .unsized⟩ := by
    decide +kernel
  have htokens := (tokenize_integer_symbol default (by decide) hliteral (by decide)).2 hsign
  rw [hstop, hend] at htokens
  exact htokens

/-- The last digit of a hexadecimal numeral is taken for the mark of an exponent, and the plus
behind it for its sign. -/
theorem tokenize_hexadecimal_plus :
    IntegerLiteral.ofString? "0xE" = some ⟨14, .hexadecimal, .unsized⟩ ∧
      Symbol.ofString? "+" = some .plus ∧
      tokenize default ("0xE" ++ "+") =
        .error (.token ⟨.malformedInteger, "0xE+", ⟨⟨1, 1⟩, ⟨1, 5⟩⟩⟩) := by
  refine ⟨by decide +kernel, by decide, ?_⟩
  with_unfolding_all rfl

end VinylSyntax
