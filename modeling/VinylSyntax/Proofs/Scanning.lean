import VinylSyntax.Proofs.Ahead

/-!
# Steps of the lexer

What a single step of the lexer does: `Lexer.next_cases` says that it ends behind the last white
space, gives up at the token limit, or cuts off white space and one lexeme and makes an item of
that. `AccountsFor` says what an item tells of its lexeme.
-/

namespace VinylSyntax

/-! ## White space -/

/-- A test of single characters splits a text behind the characters that fail it. -/
theorem splitWhere_eq_takeWhile (test : Char → Bool) (scanned text : List Char) :
    splitWhere (fun _ char _ => test char) scanned text =
      (scanned.reverse ++ text.takeWhile (!test ·), text.dropWhile (!test ·)) := by
  induction text generalizing scanned with
  | nil => simp [splitWhere]
  | cons char rest ih =>
    rw [splitWhere]
    cases htest : test char with
    | true => simp [htest]
    | false =>
      simp only [Bool.false_eq_true, if_false]
      rw [ih]
      simp [htest]

/-- White space in front of a text. -/
def gapOf (text : List Char) : List Char := text.takeWhile isBlank

/-- A text without the white space in front of it. -/
def behindGap (text : List Char) : List Char := text.dropWhile isBlank

/-- The white space in front of a text and what stands behind it make up the text. -/
theorem gapOf_append_behindGap (text : List Char) : gapOf text ++ behindGap text = text :=
  List.takeWhile_append_dropWhile

/-- The gap in front of a text has only white space in it. -/
theorem isBlank_of_mem_gapOf {text : List Char} {char : Char} (h : char ∈ gapOf text) :
    isBlank char = true := by
  have hall := List.all_takeWhile (l := text) (p := isBlank)
  exact List.all_eq_true.1 hall char h

/-- The gap in front of a text ends at a character that is not white space. -/
theorem behindGap_head {text rest : List Char} {first : Char} (h : behindGap text = first :: rest) :
    isBlank first = false := by
  have hhead := List.head?_dropWhile_not isBlank text
  rw [behindGap] at h
  rw [h] at hhead
  simpa using hhead

/-! ## Lexemes -/

namespace Lexeme

/-- A lexeme has at least one character. -/
theorem text_ne_nil (first : Char) (rest : List Char) : (split first rest).1.text ≠ [] := by
  intro hempty
  have happend := text_append_rest first rest
  have hle := length_rest_le first rest
  rw [hempty, List.nil_append] at happend
  rw [happend, List.length_cons] at hle
  omega

/-- A comment without end takes all of the text. -/
theorem split_openComment {first : Char} {rest text : List Char}
    (h : (split first rest).1 = .openComment text) : (split first rest).2 = [] := by
  revert h
  unfold split
  split
  · simp
  · split
    · simp
    · split
      · simp [splitLine]
      · unfold splitBlock
        split
        · simp
        · simp
      · unfold splitSymbol
        split
        · split
          · simp
          · simp
        · simp

end Lexeme

/-! ## Items -/

/-- Items are compared by what they hold, and a token is never an error. -/
instance : DecidableEq Item
  | .ok a, .ok b => decidable_of_iff (a = b) (by simp)
  | .error a, .error b => decidable_of_iff (a = b) (by simp)
  | .ok _, .error _ => .isFalse (by simp)
  | .error _, .ok _ => .isFalse (by simp)

/-- The stretch of source that an item is about. -/
def Item.span : Item → Span
  | .ok token => token.span
  | .error error => error.span

/-- What an item tells of the lexeme that it was made of, behind which `rest` is left: its text, its
length, or that it goes on to the end. Of no lexeme tells the item that there are too many. -/
def Item.AccountsFor (item : Item) (lexeme rest : List Char) : Prop :=
  match item with
  | .ok token => token.text = String.ofList lexeme
  | .error (.token error) => error.text = String.ofList lexeme
  | .error (.identifierTooLong length _) => length = lexeme.length
  | .error (.commentTooLong length _) => length = lexeme.length
  | .error (.unterminatedComment _) => rest = []
  | .error (.tooManyTokens _ _) => False

namespace Token

/-- Checking a text keeps the text and its span, whether it is refused or not. -/
def Keeps (result : Except TokenError Token) (text : String) (span : Span) : Prop :=
  match result with
  | .ok token => token.text = text ∧ token.span = span
  | .error error => error.text = text ∧ error.span = span

variable (text : String) (span : Span)

/-- Making an integer of a text keeps the text and its span, also where it is refused. -/
theorem integer_keeps : Keeps (integer text span) text span := by
  unfold integer
  split <;> exact ⟨rfl, rfl⟩

/-- Making a floating point number of a text keeps the text and its span, also where it is
refused. -/
theorem float_keeps : Keeps (float text span) text span := by
  unfold float
  split <;> exact ⟨rfl, rfl⟩

/-- Making an identifier of a text keeps the text and its span, also where it is refused. -/
theorem identifier_keeps : Keeps (identifier text span) text span := by
  unfold identifier
  split
  · exact ⟨rfl, rfl⟩
  · split <;> exact ⟨rfl, rfl⟩

/-- Making a keyword of a text keeps the text and its span, also where it is refused. -/
theorem keyword_keeps : Keeps (keyword text span) text span := by
  unfold keyword
  split <;> exact ⟨rfl, rfl⟩

/-- Making a symbol of a text keeps the text and its span, also where it is refused. -/
theorem symbol_keeps : Keeps (symbol text span) text span := by
  unfold symbol
  split <;> exact ⟨rfl, rfl⟩

/-- The item of a checked text tells the text. -/
theorem Keeps.accounts {result : Except TokenError Token} {lexeme : List Char} {span : Span}
    (h : Keeps result (String.ofList lexeme) span) (rest : List Char) :
    Item.AccountsFor (result.mapError .token) lexeme rest ∧
      Item.span (result.mapError .token) = span := by
  cases result with
  | ok token => exact h
  | error error => exact h

end Token

/-- The item that is made of a lexeme tells of it, and is about the span that it was given. -/
theorem Lexeme.token_accounts (lexeme : Lexeme) (span : Span) (rest : List Char)
    (hopen : ∀ text, lexeme = .openComment text → rest = []) :
    Item.AccountsFor (lexeme.token span) lexeme.text rest ∧
      Item.span (lexeme.token span) = span := by
  cases lexeme with
  | number text =>
    have hfloat := Token.float_keeps (String.ofList text) span
    unfold Lexeme.token
    cases hresult : Token.float (String.ofList text) span with
    | ok token =>
      rw [hresult] at hfloat
      simp only [hresult]
      exact hfloat
    | error error =>
      simp only [hresult]
      exact (Token.integer_keeps _ span).accounts rest
  | word text =>
    simp only [Lexeme.token]
    split
    · exact (Token.keyword_keeps _ span).accounts rest
    · split
      · exact ⟨rfl, rfl⟩
      · exact (Token.identifier_keeps _ span).accounts rest
  | comment text =>
    simp only [Lexeme.token]
    split <;> exact ⟨rfl, rfl⟩
  | openComment text => exact ⟨hopen text rfl, rfl⟩
  | symbol text => exact (Token.symbol_keeps _ span).accounts rest

/-! ## Steps -/

namespace Lexer

/-- What a step over a lexeme leads to. -/
structure Lexes (lexer : Lexer) (gap : List Char) (first : Char) (tail : List Char) : Prop where
  blank : ∀ char ∈ gap, isBlank char = true
  visible : isBlank first = false
  rest_eq : lexer.cursor.rest = gap ++ first :: tail
  tokens_lt : lexer.metrics.tokens < Limits.tokenCount
  item_eq : lexer.next.item = some ((Lexeme.split first tail).1.token
    ⟨lexer.location.advanceOver gap,
      lexer.location.advanceOver (gap ++ (Lexeme.split first tail).1.text)⟩)
  finished_next : lexer.next.lexer.finished = false
  rest_next : lexer.next.lexer.cursor.rest = (Lexeme.split first tail).2
  location_next : lexer.next.lexer.location =
    lexer.location.advanceOver (gap ++ (Lexeme.split first tail).1.text)
  tokens_next : lexer.next.lexer.metrics.tokens ≤ lexer.metrics.tokens + 1

/-- Settling a step counts at most one token. -/
theorem tokens_settle_le (lexer : Lexer) (item : Item) :
    (lexer.settle item).lexer.metrics.tokens ≤ lexer.metrics.tokens + 1 := by
  cases item with
  | ok token => simp [settle, produce]
  | error error => simp [settle, fail, Metrics.countError]

/-- Skipping white space leads behind the gap in front of the text. -/
theorem cursor_skipBlank (lexer : Lexer) : lexer.skipBlank.cursor =
    lexer.cursor.past (gapOf lexer.cursor.rest) (behindGap lexer.cursor.rest) := by
  simp [skipBlank, Cursor.readUntil, splitWhere_eq_takeWhile, gapOf, behindGap]

/-- A lexer with nothing but white space in front of it finishes. -/
theorem next_of_blank {lexer : Lexer} (hfinished : lexer.finished = false)
    (hbehind : behindGap lexer.cursor.rest = []) : lexer.next = lexer.skipBlank.finish := by
  simp only [next, hfinished, cursor_skipBlank, hbehind, Cursor.past, Bool.false_eq_true, if_false]

/-- A lexer with a character in front of it refuses a further token at the limit, and takes a lexeme
below it. -/
theorem next_of_visible {lexer : Lexer} {first : Char} {tail : List Char}
    (hfinished : lexer.finished = false) (hbehind : behindGap lexer.cursor.rest = first :: tail) :
    lexer.next = if Limits.tokenCount ≤ lexer.metrics.tokens then lexer.skipBlank.refuse
      else lexer.skipBlank.lex first tail := by
  simp only [next, hfinished, cursor_skipBlank, hbehind, Cursor.past, metrics_skipBlank,
    Bool.false_eq_true, if_false]
  rfl

/-- A lexer that has not finished ends behind the last white space, gives up at the token limit, or
cuts off white space and a lexeme. -/
theorem next_cases {lexer : Lexer} (hfinished : lexer.finished = false) :
    ((∀ char ∈ lexer.cursor.rest, isBlank char = true) ∧ lexer.next.item = none ∧
      lexer.next.lexer.location = lexer.location.advanceOver lexer.cursor.rest) ∨
    (Limits.tokenCount ≤ lexer.metrics.tokens ∧ (∃ char ∈ lexer.cursor.rest, isBlank char = false) ∧
      lexer.next.lexer.finished = true ∧
      ∃ count span, lexer.next.item = some (.error (.tooManyTokens count span))) ∨
    ∃ gap first tail, lexer.Lexes gap first tail := by
  have hskip := cursor_skipBlank lexer
  have hrest := gapOf_append_behindGap lexer.cursor.rest
  -- Behind the white space is the end, or a character that a lexeme begins with.
  cases hbehind : behindGap lexer.cursor.rest with
  | nil =>
    have hnext := next_of_blank hfinished hbehind
    rw [hbehind, List.append_nil] at hrest
    refine .inl ⟨?_, ?_, ?_⟩
    · intro char hchar
      rw [← hrest] at hchar
      exact isBlank_of_mem_gapOf hchar
    · rw [hnext]
      rfl
    · rw [hnext]
      show lexer.skipBlank.cursor.location = lexer.location.advanceOver lexer.cursor.rest
      rw [hskip, hrest]
      rfl
  | cons first tail =>
    have hnext := next_of_visible hfinished hbehind
    by_cases hlimit : Limits.tokenCount ≤ lexer.metrics.tokens
    · rw [if_pos hlimit] at hnext
      refine .inr (.inl ⟨hlimit, ⟨first, ?_, behindGap_head hbehind⟩, ?_, lexer.metrics.tokens + 1,
        .point lexer.skipBlank.location, ?_⟩)
      · rw [← hrest, hbehind]
        simp
      · rw [hnext]
        rfl
      · rw [hnext]
        rfl
    · rw [if_neg hlimit] at hnext
      have hlocation : lexer.skipBlank.location =
          lexer.location.advanceOver (gapOf lexer.cursor.rest) := by
        rw [location, hskip]
        rfl
      have hpast : (lexer.skipBlank.past (Lexeme.split first tail).1
          (Lexeme.split first tail).2).location = lexer.location.advanceOver
            (gapOf lexer.cursor.rest ++ (Lexeme.split first tail).1.text) := by
        show lexer.skipBlank.location.advanceOver _ = _
        rw [hlocation, Location.advanceOver_append]
      refine .inr (.inr ⟨gapOf lexer.cursor.rest, first, tail, ?_⟩)
      exact
        { blank := fun char hchar => isBlank_of_mem_gapOf hchar
          visible := behindGap_head hbehind
          rest_eq := by rw [← hbehind, hrest]
          tokens_lt := Nat.lt_of_not_le hlimit
          item_eq := by rw [hnext, lex, item_settle, hlocation, hpast]
          finished_next := by rw [hnext, lex, finished_settle]; exact hfinished
          rest_next := by rw [hnext, lex, cursor_settle]; rfl
          location_next := by rw [hnext, lex, location, cursor_settle]; exact hpast
          tokens_next := by rw [hnext, lex]; exact tokens_settle_le _ _ }

/-- Tokens that end with the text end behind its last character. -/
theorem location_of_finished {lexer : Lexer} {location : Location}
    (hfinished : lexer.finished = false) (h : lexer.ahead.ending = .finished location) :
    location = lexer.location.advanceOver lexer.cursor.rest := by
  induction hremaining : lexer.remaining using Nat.strongRecOn generalizing lexer with
  | ind _ ih =>
    obtain ⟨-, hitem, hlocation⟩ | ⟨-, -, -, count, span, hitem⟩ | ⟨gap, first, tail, hlexes⟩ :=
      next_cases hfinished
    · rw [ahead_of_none hitem] at h
      rw [← hlocation]
      exact (Ending.finished.inj h).symm
    · rw [ahead_of_error hitem] at h
      cases h
    · have hlt := lexer.remaining_next_lt (by simp [hlexes.item_eq])
      cases hitem : lexer.next.item with
      | none => simp [hlexes.item_eq] at hitem
      | some item =>
        cases item with
        | error error =>
          rw [ahead_of_error hitem] at h
          cases h
        | ok token =>
          have hending : lexer.next.lexer.ahead.ending = .finished location := by
            rw [ahead_of_token hitem, Ahead.push] at h
            split at h <;> exact h
          rw [ih _ (by omega) hlexes.finished_next hending rfl, hlexes.location_next,
            hlexes.rest_next, hlexes.rest_eq, ← Location.advanceOver_append, List.append_assoc,
            Lexeme.text_append_rest]

end Lexer

end VinylSyntax
