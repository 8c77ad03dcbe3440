import VinylSyntax.Proofs.Borders

/-!
# Tokens that stand alone

A text that is the lexeme of one token is so in front of a blank as well, whatever comes behind. So
texts of such tokens with single blanks between them are lexed to these tokens: see
`Lexer.ahead_of_words`. Comments are excepted, since a line comment would go on behind the blank.
-/

namespace VinylSyntax

/-! ## Single tokens -/

namespace Token

/-- The token without its place. -/
def unplaced (token : Token) : Token := { token with span := default }

/-- The token is made of all of a text, which begins with no white space. -/
def StandsFor (token : Token) : List Char → Prop
  | [] => False
  | first :: tail => isBlank first = false ∧ (Lexeme.split first tail).2 = [] ∧
    (Lexeme.split first tail).1.token token.span = .ok token

/-- Whether a token stands for a text is decided by lexing the text. -/
instance (token : Token) : (text : List Char) → Decidable (token.StandsFor text)
  | [] => .isFalse id
  | _ :: _ => inferInstanceAs (Decidable (_ ∧ _ ∧ _))

/-- The token is no comment and is made of all of its text. -/
def Standalone (token : Token) : Prop :=
  token.isComment = false ∧ token.StandsFor token.text.toList

/-- Whether a token is standalone is decided by lexing its text. -/
instance (token : Token) : Decidable token.Standalone := inferInstanceAs (Decidable (_ ∧ _))

/-- A keyword, wherever it stands. -/
def ofKeyword (keyword : Keyword) : Token := ⟨.keyword keyword, keyword.spelling, default⟩

/-- A symbol, wherever it stands. -/
def ofSymbol (symbol : Symbol) : Token := ⟨.symbol symbol, symbol.spelling, default⟩

/-- What a keyword is spelled with is lexed to that keyword alone. -/
theorem standalone_ofKeyword (keyword : Keyword) : (ofKeyword keyword).Standalone := by
  cases keyword <;> decide +kernel

/-- What a symbol is spelled with is lexed to that symbol alone. -/
theorem standalone_ofSymbol (symbol : Symbol) : (ofSymbol symbol).Standalone := by
  cases symbol <;> decide +kernel

/-- The text of a token is lexed to that token alone. -/
def LexesAlone (preferences : LexicalPreferences) (token : Token) : Prop :=
  ∃ span, tokenize preferences token.text = .ok [{ token with span := span }]

end Token

namespace Lexer

/-- A token is taken in front of those that are taken behind it. -/
theorem takeTokens_of_token {lexer : Lexer} {token : Token}
    (h : lexer.next.item = some (.ok token)) :
    lexer.takeTokens.result = lexer.next.lexer.takeTokens.result.map (token :: ·) := by
  obtain ⟨_, htaken⟩ := takeTokensFrom_eq [token] (lexer.next.events.reverse ++ []) lexer.next.lexer
  rw [takeTokens, takeTokensFrom_of_token [] [] h, htaken]
  cases hfailure : lexer.next.lexer.takeTokens.failure <;>
    simp [Tokens.result, hfailure, Except.map]

/-- Where nothing is given, no tokens are taken. -/
theorem takeTokens_of_none {lexer : Lexer} (h : lexer.next.item = none) :
    lexer.takeTokens.result = .ok [] := by
  rw [takeTokens, takeTokensFrom_of_none [] [] h]
  rfl

/-- Where an error is given, taking tokens fails with it. -/
theorem takeTokens_of_error {lexer : Lexer} {error : LexicalError}
    (h : lexer.next.item = some (.error error)) : lexer.takeTokens.result = .error error := by
  rw [takeTokens, takeTokensFrom_of_error [] [] h]
  rfl

/-- A lexer that gives tokens without an error is at the end, or gives the first of them next and
the others behind it. -/
theorem takeTokens_inv {lexer : Lexer} {tokens : List Token}
    (h : lexer.takeTokens.result = .ok tokens) :
    (lexer.next.item = none ∧ tokens = []) ∨
      ∃ token rest, lexer.next.item = some (.ok token) ∧
        lexer.next.lexer.takeTokens.result = .ok rest ∧ tokens = token :: rest := by
  cases hitem : lexer.next.item with
  | none =>
    rw [takeTokens_of_none hitem] at h
    exact .inl ⟨rfl, (Except.ok.inj h).symm⟩
  | some item =>
    cases item with
    | error error =>
      rw [takeTokens_of_error hitem] at h
      cases h
    | ok token =>
      rw [takeTokens_of_token hitem] at h
      cases hrest : lexer.next.lexer.takeTokens.result with
      | error error => simp [hrest, Except.map] at h
      | ok rest => exact .inr ⟨token, rest, rfl, rfl, by simpa [hrest, Except.map] using h.symm⟩

/-- A lexer whose next item is a token cuts off white space and a lexeme. -/
theorem lexes_of_token {lexer : Lexer} {token : Token} (hfinished : lexer.finished = false)
    (hitem : lexer.next.item = some (.ok token)) :
    ∃ gap first tail, lexer.Lexes gap first tail := by
  rcases next_cases hfinished with ⟨-, hnone, -⟩ | ⟨-, -, -, _, _, herror⟩ | hlexes
  · simp [hitem] at hnone
  · simp [hitem] at herror
  · exact hlexes

/-- A lexer has no next item if and only if only white space is in front of it. -/
theorem item_eq_none_iff {lexer : Lexer} (hfinished : lexer.finished = false) :
    lexer.next.item = none ↔ ∀ char ∈ lexer.cursor.rest, isBlank char = true := by
  rcases next_cases hfinished with ⟨hblank, hitem, -⟩ |
    ⟨-, ⟨char, hchar, hvisible⟩, -, _, _, hitem⟩ | ⟨gap, first, tail, hlexes⟩
  · exact ⟨fun _ => hblank, fun _ => hitem⟩
  · exact ⟨fun h => absurd h (by simp [hitem]), fun h => absurd (h char hchar) (by simp [hvisible])⟩
  · refine ⟨fun h => absurd h (by simp [hlexes.item_eq]), fun h => ?_⟩
    exact absurd (h first (by simp [hlexes.rest_eq])) (by simp [hlexes.visible])

/-- White space up to the end is passed, and no token is ahead. -/
theorem ahead_of_blank {lexer : Lexer} (hfinished : lexer.finished = false)
    (hblank : ∀ char ∈ lexer.cursor.rest, isBlank char = true) :
    lexer.ahead = ⟨[], .finished (lexer.location.advanceOver lexer.cursor.rest)⟩ := by
  have hitem := (item_eq_none_iff hfinished).2 hblank
  rcases next_cases hfinished with ⟨-, -, hlocation⟩ | ⟨-, -, -, _, _, herror⟩ | ⟨_, _, _, hlexes⟩
  · rw [ahead_of_none hitem, hlocation]
  · simp [hitem] at herror
  · exact absurd hlexes.item_eq (by simp [hitem])

/-- A step that gives a token counts one token more. -/
theorem tokens_next_of_token {lexer : Lexer} {token : Token}
    (h : lexer.next.item = some (.ok token)) :
    lexer.next.lexer.metrics.tokens = lexer.metrics.tokens + 1 := by
  cases hfinished : lexer.finished with
  | true => simp [next, hfinished] at h
  | false =>
    cases hrest : lexer.skipBlank.cursor.rest with
    | nil => simp [next, hfinished, hrest, finish] at h
    | cons first rest =>
      by_cases hlimit : Limits.tokenCount ≤ lexer.metrics.tokens
      · simp [next, hfinished, hrest, hlimit, refuse, fail] at h
      · obtain ⟨behind, item, hlex, hmetrics⟩ := lexer.skipBlank.lex_eq_settle first rest
        have hnext : lexer.next = behind.settle item := by
          simp only [next, hfinished, hrest, metrics_skipBlank, if_neg hlimit, hlex,
            Bool.false_eq_true, if_false]
        rw [hnext, item_settle] at h
        obtain rfl := Option.some.inj h
        rw [hnext]
        show (behind.metrics.countToken _ token).tokens = _
        rw [Metrics.tokens_countToken, hmetrics, metrics_skipBlank]

section Lexes

variable {lexer : Lexer} {gap tail : List Char} {first : Char} {token : Token}
  (hlexes : lexer.Lexes gap first tail) (hitem : lexer.next.item = some (.ok token))

include hlexes hitem

/-- The token of a step is made of the lexeme in front of the lexer. -/
theorem Lexes.made_of : (Lexeme.split first tail).1.token ⟨lexer.location.advanceOver gap,
    lexer.location.advanceOver (gap ++ (Lexeme.split first tail).1.text)⟩ = .ok token :=
  Option.some.inj (hlexes.item_eq.symm.trans hitem)

/-- The text of a token is that of its lexeme. -/
theorem Lexes.text_eq : token.text.toList = (Lexeme.split first tail).1.text := by
  have haccounts := hlexes.fits.accounts
  rw [pieceOf, hlexes.made_of hitem] at haccounts
  rw [show token.text = String.ofList _ from haccounts]
  simp

/-- The text of a token begins with the character that its lexeme begins with. -/
theorem Lexes.exists_text : ∃ inner, token.text.toList = first :: inner := by
  obtain ⟨char, inner, htext⟩ := List.exists_cons_of_ne_nil (Lexeme.text_ne_nil first tail)
  have hcut := Lexeme.text_append_rest first tail
  rw [htext] at hcut
  obtain ⟨rfl, -⟩ := List.cons.inj hcut
  exact ⟨inner, (hlexes.text_eq hitem).trans htext⟩

/-- The span of a token goes from the first character of its lexeme to behind the last one. -/
theorem Lexes.span_eq : token.span = ⟨lexer.location.advanceOver gap,
    lexer.location.advanceOver (gap ++ (Lexeme.split first tail).1.text)⟩ := by
  have hspan := hlexes.fits.span_eq
  rw [pieceOf, hlexes.made_of hitem] at hspan
  exact hspan

end Lexes

end Lexer

/-- A token that its text is lexed to is made of all of the text. -/
theorem Token.standalone_of_lexesAlone {preferences : LexicalPreferences} {token : Token}
    (h : token.LexesAlone preferences) (hcomment : token.isComment = false) : token.Standalone := by
  obtain ⟨span, hresult⟩ := h
  have hfinished : (Lexer.ofString preferences token.text).finished = false := rfl
  obtain ⟨-, hnone⟩ | ⟨found, others, hitem, -, heq⟩ := Lexer.takeTokens_inv hresult
  · cases hnone
  obtain ⟨rfl, -⟩ := List.cons.inj heq
  obtain ⟨gap, first, tail, hlexes⟩ := Lexer.lexes_of_token hfinished hitem
  have hmade := hlexes.made_of hitem
  have htext := hlexes.text_eq hitem
  have hall : token.text.toList = gap ++ first :: tail := hlexes.rest_eq
  have hcut := Lexeme.text_append_rest first tail
  -- The lexeme has all characters of the text, so none is left for a gap or for a rest.
  obtain ⟨hgap, hrest⟩ : gap = [] ∧ (Lexeme.split first tail).2 = [] := by
    have hlength := congrArg List.length (htext.symm.trans hall)
    rw [← hcut, List.length_append, List.length_append] at hlength
    exact ⟨List.eq_nil_of_length_eq_zero (by omega), List.eq_nil_of_length_eq_zero (by omega)⟩
  have htoken := Lexeme.token_of_token token.span hmade
  refine ⟨hcomment, ?_⟩
  rw [hall, hgap]
  exact ⟨hlexes.visible, hrest, htoken⟩

namespace Lexer

/-- Words with single blanks between them: the first one, and the others behind a blank. -/
theorem intercalate_cons (word : List Char) (words : List (List Char)) :
    ∃ rest, [' '].intercalate (word :: words) = word ++ rest ∧
      (words = [] ∧ rest = [] ∨ rest = ' ' :: [' '].intercalate words) := by
  cases words with
  | nil => exact ⟨[], by simp, .inl ⟨rfl, rfl⟩⟩
  | cons next words =>
    exact ⟨_, by rw [List.intercalate_cons_cons, List.append_assoc]; rfl, .inr rfl⟩

/-- A word that stands alone is the next token, whatever white space is in front of it, if the text
ends behind it or a blank follows. -/
theorem next_of_standalone {lexer : Lexer} {word : Token} {gap rest : List Char}
    (hfinished : lexer.finished = false) (hgap : ∀ char ∈ gap, isBlank char = true)
    (hrest : lexer.cursor.rest = gap ++ (word.text.toList ++ rest))
    (hfollow : rest = [] ∨ ∃ others, rest = ' ' :: others) (hword : word.Standalone)
    (hlimit : lexer.metrics.tokens < Limits.tokenCount) :
    ∃ token, lexer.next.item = some (.ok token) ∧ token.unplaced = word.unplaced ∧
      lexer.next.lexer.finished = false ∧ lexer.next.lexer.cursor.rest = rest ∧
      lexer.next.lexer.metrics.tokens ≤ lexer.metrics.tokens + 1 := by
  obtain ⟨hcomment, hstands⟩ := hword
  obtain ⟨first, tail, htext⟩ : ∃ first tail, word.text.toList = first :: tail := by
    cases htext : word.text.toList with
    | nil => rw [htext] at hstands; exact hstands.elim
    | cons first tail => exact ⟨first, tail, rfl⟩
  rw [htext] at hstands hrest
  obtain ⟨hvisible, hall, htoken⟩ := hstands
  have hlexes : lexer.Lexes gap first (tail ++ rest) :=
    lexes_of_rest hfinished hlimit hgap hvisible hrest
  have hborder : Border [] rest := by
    rcases hfollow with rfl | ⟨others, rfl⟩
    · exact .empty
    · exact .blank (by decide)
  have hcut := Lexeme.text_append_rest first tail
  rw [hall, List.append_nil] at hcut
  have hline : ∀ text, (Lexeme.split first tail).1 = .comment text → ['/', '/'] <+: text →
      rest = [] ∨ rest.head? = some '\n' := by
    intro text hlexeme
    have hcomment' := (Lexeme.isComment_iff htoken).2 ⟨text, hlexeme⟩
    simp [hcomment] at hcomment'
  have hsplit : Lexeme.split first (tail ++ rest) = ((Lexeme.split first tail).1, rest) :=
    Lexeme.split_replace (by rw [List.append_nil, ← hall]) hcut (Lexeme.closed_of_token htoken)
      hborder hline
  have hitem := hlexes.item_eq
  have hnext := hlexes.rest_next
  rw [hsplit] at hitem hnext
  rw [Lexeme.token_of_token _ htoken] at hitem
  exact ⟨_, hitem, rfl, hlexes.finished_next, hnext, hlexes.tokens_next⟩

/-- Words with single blanks between them, whatever white space is in front of them, are lexed to
the tokens that they stand for. -/
theorem ahead_of_words {lexer : Lexer} {words : List Token} {gap : List Char}
    (hfinished : lexer.finished = false) (hgap : ∀ char ∈ gap, isBlank char = true)
    (hrest : lexer.cursor.rest = gap ++ [' '].intercalate (words.map fun word => word.text.toList))
    (hwords : ∀ word ∈ words, word.Standalone)
    (hlimit : lexer.metrics.tokens + words.length ≤ Limits.tokenCount) :
    ∃ tokens location, lexer.ahead = ⟨tokens, .finished location⟩ ∧
      tokens.map Token.unplaced = words.map Token.unplaced := by
  induction words generalizing lexer gap with
  | nil =>
    obtain hrest : lexer.cursor.rest = gap := by simpa using hrest
    exact ⟨[], _, ahead_of_none ((item_eq_none_iff hfinished).2 (hrest ▸ hgap)), rfl⟩
  | cons word words ih =>
    obtain ⟨rest, hsplit, hrest'⟩ :=
      intercalate_cons word.text.toList (words.map fun word => word.text.toList)
    rw [List.map_cons, hsplit] at hrest
    have hword := hwords word (by simp)
    have hfollow : rest = [] ∨ ∃ others, rest = ' ' :: others := by
      rcases hrest' with ⟨-, rfl⟩ | rfl
      · exact .inl rfl
      · exact .inr ⟨_, rfl⟩
    rw [List.length_cons] at hlimit
    obtain ⟨token, hitem, hunplaced, hfinished', hnext, hcount⟩ :=
      next_of_standalone hfinished hgap hrest hfollow hword (by omega)
    have hothers : ∀ other ∈ words, other.Standalone := fun other hother =>
      hwords other (by simp [hother])
    -- The blank behind this word is the gap in front of the next one.
    obtain ⟨gap', hgap', hnext'⟩ : ∃ gap', (∀ char ∈ gap', isBlank char = true) ∧
        lexer.next.lexer.cursor.rest =
          gap' ++ [' '].intercalate (words.map fun word => word.text.toList) := by
      rcases hrest' with ⟨hempty, rfl⟩ | rfl
      · exact ⟨[], by simp, by rw [hnext, hempty]; rfl⟩
      · exact ⟨[' '], List.forall_mem_singleton.2 rfl, hnext⟩
    obtain ⟨tokens, location, hahead, htokens⟩ := ih hfinished' hgap' hnext' hothers (by omega)
    have hcomment : token.isComment = false := by
      have hkind : token.unplaced.kind = word.unplaced.kind := by rw [hunplaced]
      rw [Token.isComment, show token.kind = word.kind from hkind]
      exact hword.1
    refine ⟨token :: tokens, location, ?_, by simp [hunplaced, htokens]⟩
    rw [ahead_of_token hitem, hahead, Ahead.push_token hcomment]
    rfl

end Lexer

end VinylSyntax
