import VinylSyntax.Proofs.Standalone

/-!
# A lexer after any number of steps

`Lexer.after` takes a number of steps, whatever they give. Every step passes a piece of the text,
which is not empty unless the step ends the lexer; a step ends the lexer if there is nothing in
front of it but white space, or a character where the token limit is reached. So the steps of a
source give no more items than it has characters, and nothing happens behind the last one: see
`steps_bounded`.
-/

namespace VinylSyntax

/-- One place is another one behind the characters `taken`. -/
def Cursor.Passes (cursor : Cursor) (taken : List Char) (behind : Cursor) : Prop :=
  cursor.rest = taken ++ behind.rest ∧ behind = cursor.past taken behind.rest

/-- Every place is behind no characters of itself. -/
theorem Cursor.Passes.refl (cursor : Cursor) : cursor.Passes [] cursor := ⟨rfl, rfl⟩

/-- Characters are passed one stretch behind the other. -/
theorem Cursor.Passes.trans {first middle last : Cursor} {front back : List Char}
    (h : first.Passes front middle) (h' : middle.Passes back last) :
    first.Passes (front ++ back) last := by
  obtain ⟨hrest, hmiddle⟩ := h
  obtain ⟨hrest', hlast⟩ := h'
  refine ⟨by rw [hrest, hrest', List.append_assoc], ?_⟩
  rw [hlast, hmiddle]
  simp only [Cursor.past, Location.advanceOver_append, List.length_append, Nat.add_assoc]

namespace Lexer

/-! ## One step -/

/-- A step after which nothing happens any more: it gives nothing, or refuses a further token. -/
def Step.Ends (step : Step) : Prop :=
  step.item = none ∨ ∃ count span, step.item = some (.error (.tooManyTokens count span))

variable {lexer : Lexer}

/-- A lexer that has finished gives nothing and does not change. -/
theorem next_of_finished (h : lexer.finished = true) : lexer.next = ⟨none, [], lexer⟩ := by
  simp [next, h]

/-- Skipping white space passes all of it. -/
theorem passes_skipBlank (lexer : Lexer) :
    lexer.cursor.Passes (gapOf lexer.cursor.rest) lexer.skipBlank.cursor := by
  rw [cursor_skipBlank]
  exact ⟨(gapOf_append_behindGap _).symm, rfl⟩

/-- A step over a lexeme passes it. -/
theorem passes_lex {first : Char} {tail : List Char} (hrest : lexer.cursor.rest = first :: tail) :
    lexer.cursor.Passes (Lexeme.split first tail).1.text (lexer.lex first tail).lexer.cursor := by
  rw [lex, cursor_settle]
  exact ⟨hrest.trans (Lexeme.text_append_rest first tail).symm, rfl⟩

/-- A lexeme is no reason to refuse a further token. -/
theorem Lexes.not_ends {gap tail : List Char} {first : Char} (h : lexer.Lexes gap first tail) :
    ¬ lexer.next.Ends := by
  have haccounts := h.fits.accounts
  rintro (hnone | ⟨count, span, hitem⟩)
  · rw [h.item_eq] at hnone
    cases hnone
  · have hrefused : (lexer.pieceOf gap first tail).item = .error (.tooManyTokens count span) :=
      Option.some.inj (h.item_eq.symm.trans hitem)
    rw [hrefused] at haccounts
    exact haccounts

/-- A lexer that has not finished is at the end of the text, refuses a further token in front of a
character, or passes a lexeme. -/
theorem step_cases (hfinished : lexer.finished = false) :
    (lexer.next = lexer.skipBlank.finish ∧ ∀ char ∈ lexer.cursor.rest, isBlank char = true) ∨
    (∃ first tail, lexer.next = lexer.skipBlank.refuse ∧
      Limits.tokenCount ≤ lexer.metrics.tokens ∧ behindGap lexer.cursor.rest = first :: tail) ∨
    ∃ first tail, lexer.next = lexer.skipBlank.lex first tail ∧
      lexer.metrics.tokens < Limits.tokenCount ∧
      lexer.Lexes (gapOf lexer.cursor.rest) first tail ∧
      lexer.skipBlank.cursor.rest = first :: tail := by
  cases hbehind : behindGap lexer.cursor.rest with
  | nil =>
    refine .inl ⟨next_of_blank hfinished hbehind, fun char hchar => ?_⟩
    have hrest := gapOf_append_behindGap lexer.cursor.rest
    rw [hbehind, List.append_nil] at hrest
    exact isBlank_of_mem_gapOf (hrest.symm ▸ hchar)
  | cons first tail =>
    have hnext := next_of_visible hfinished hbehind
    by_cases hlimit : Limits.tokenCount ≤ lexer.metrics.tokens
    · rw [if_pos hlimit] at hnext
      exact .inr (.inl ⟨first, tail, hnext, hlimit, rfl⟩)
    · rw [if_neg hlimit] at hnext
      have hrest : lexer.cursor.rest = gapOf lexer.cursor.rest ++ first :: tail := by
        rw [← hbehind, gapOf_append_behindGap]
      refine .inr (.inr ⟨first, tail, hnext, Nat.lt_of_not_le hlimit, ?_, ?_⟩)
      · exact lexes_of_rest hfinished (Nat.lt_of_not_le hlimit)
          (fun _ => isBlank_of_mem_gapOf) (behindGap_head hbehind) hrest
      · rw [cursor_skipBlank]
        exact hbehind

/-- A step ends a lexer just if the lexer has finished behind it. -/
theorem ends_iff_finished : lexer.next.Ends ↔ lexer.next.lexer.finished = true := by
  by_cases hfinished : lexer.finished = true
  · rw [next_of_finished hfinished]
    exact ⟨fun _ => hfinished, fun _ => .inl rfl⟩
  · rcases step_cases (Bool.not_eq_true _ ▸ hfinished) with
      ⟨hnext, -⟩ | ⟨_, _, hnext, -, -⟩ | ⟨_, _, -, -, hlexes, -⟩
    · rw [hnext]
      exact ⟨fun _ => rfl, fun _ => .inl rfl⟩
    · rw [hnext]
      exact ⟨fun _ => rfl, fun _ => .inr ⟨_, _, rfl⟩⟩
    · rw [hlexes.finished_next]
      exact ⟨fun h => absurd h hlexes.not_ends, fun h => absurd h (by simp)⟩

/-- Every step passes a piece of the text, which is not empty if the step does not end the lexer. -/
theorem exists_passes_next (lexer : Lexer) :
    ∃ taken, lexer.cursor.Passes taken lexer.next.lexer.cursor ∧
      (¬ lexer.next.Ends → taken ≠ []) := by
  by_cases hfinished : lexer.finished = true
  · rw [next_of_finished hfinished]
    exact ⟨[], .refl _, fun h => absurd (.inl rfl) h⟩
  · rcases step_cases (Bool.not_eq_true _ ▸ hfinished) with
      ⟨hnext, -⟩ | ⟨_, _, hnext, -, -⟩ | ⟨first, tail, hnext, -, -, hrest⟩
    · rw [hnext]
      exact ⟨_, passes_skipBlank lexer, fun h => absurd (.inl rfl) h⟩
    · rw [hnext]
      exact ⟨_, passes_skipBlank lexer, fun h => absurd (.inr ⟨_, _, rfl⟩) h⟩
    · rw [hnext]
      refine ⟨_, (passes_skipBlank lexer).trans (passes_lex hrest), fun _ hnil => ?_⟩
      exact Lexeme.text_ne_nil first tail (List.append_eq_nil_iff.1 hnil).2

/-- A step leads further on. -/
theorem location_le_next (lexer : Lexer) : lexer.location ≤ lexer.next.lexer.location := by
  obtain ⟨passed, ⟨-, hpassed⟩, -⟩ := lexer.exists_passes_next
  rw [location, location, hpassed]
  exact Location.le_advanceOver _ passed

/-- A step that gives an item leads to where that ends. -/
theorem location_next_of_item {item : Item} (h : lexer.next.item = some item) :
    lexer.next.lexer.location = item.span.stop := by
  by_cases hfinished : lexer.finished = true
  · simp [next_of_finished hfinished] at h
  · rcases step_cases (Bool.not_eq_true _ ▸ hfinished) with
      ⟨hnext, -⟩ | ⟨_, _, hnext, -, -⟩ | ⟨first, tail, -, -, hlexes, -⟩
    · rw [hnext] at h
      cases h
    · rw [hnext] at h ⊢
      cases h
      rfl
    · obtain rfl := Option.some.inj (hlexes.item_eq.symm.trans h)
      rw [hlexes.location_next, (Lexeme.token_accounts _ _ _ fun _ => Lexeme.split_openComment).2]

/-- A further token is refused just at the token limit in front of a character, and the error is
about the empty span there. -/
theorem item_eq_tooManyTokens_iff (hfinished : lexer.finished = false) {count : Nat} {span : Span} :
    lexer.next.item = some (.error (.tooManyTokens count span)) ↔
      Limits.tokenCount ≤ lexer.metrics.tokens ∧
        ∃ gap first tail, lexer.cursor.rest = gap ++ first :: tail ∧
          (∀ char ∈ gap, isBlank char = true) ∧ isBlank first = false ∧
          count = lexer.metrics.tokens + 1 ∧
          span = .point (lexer.location.advanceOver gap) := by
  rcases step_cases hfinished with
    ⟨hnext, hblank⟩ | ⟨first, tail, hnext, hlimit, hbehind⟩ | ⟨_, _, -, hlimit, hlexes, -⟩
  · rw [hnext]
    constructor
    · intro h
      cases h
    · rintro ⟨-, gap, first, tail, hrest, -, hvisible, -⟩
      exact absurd (hblank first (by simp [hrest])) (by simp [hvisible])
  · have hrest : lexer.cursor.rest = gapOf lexer.cursor.rest ++ first :: tail := by
      rw [← hbehind, gapOf_append_behindGap]
    have hlocation : lexer.skipBlank.cursor.location =
        lexer.location.advanceOver (gapOf lexer.cursor.rest) := by
      rw [cursor_skipBlank]
      rfl
    rw [hnext]
    show some (Except.error (LexicalError.tooManyTokens (lexer.metrics.tokens + 1)
      (.point lexer.skipBlank.cursor.location))) = _ ↔ _
    rw [hlocation]
    constructor
    · intro h
      cases h
      exact ⟨hlimit, _, first, tail, hrest, fun _ => isBlank_of_mem_gapOf, behindGap_head hbehind,
        rfl, rfl⟩
    · rintro ⟨-, gap, first', tail', hrest', hgap, hvisible, rfl, rfl⟩
      obtain ⟨rfl, -, -⟩ := gap_unique hgap (fun _ => isBlank_of_mem_gapOf) hvisible
        (behindGap_head hbehind) (hrest'.symm.trans hrest)
      rfl
  · exact ⟨fun h => absurd (.inr ⟨_, _, h⟩) hlexes.not_ends, fun ⟨h, _⟩ => by omega⟩

/-- A step counts the token that it gives, and no error. -/
theorem tokens_next (lexer : Lexer) : lexer.next.lexer.metrics.tokens =
    lexer.metrics.tokens + if lexer.next.item.any Except.isOk then 1 else 0 := by
  have hsettle : ∀ (behind : Lexer) (item : Item), (behind.settle item).lexer.metrics.tokens =
      behind.metrics.tokens + if item.isOk then 1 else 0 := by
    intro behind item
    cases item with
    | ok token => exact Metrics.tokens_countToken _ _ token
    | error error => rfl
  by_cases hfinished : lexer.finished = true
  · rw [next_of_finished hfinished]
    rfl
  · rcases step_cases (Bool.not_eq_true _ ▸ hfinished) with
      ⟨hnext, -⟩ | ⟨_, _, hnext, -, -⟩ | ⟨_, _, hnext, -, -, -⟩
    · rw [hnext]
      rfl
    · rw [hnext]
      rfl
    · rw [hnext, lex, item_settle, hsettle]
      rfl

/-! ## Any number of steps -/

/-- The lexer after a number of steps. -/
def after (lexer : Lexer) : Nat → Lexer
  | 0 => lexer
  | count + 1 => (lexer.after count).next.lexer

/-- How many of a number of steps give a token. -/
def tokensWithin (lexer : Lexer) (count : Nat) : Nat :=
  (List.range count).countP fun step => (lexer.after step).next.item.any Except.isOk

/-- Steps can be taken in two parts. -/
theorem after_add (lexer : Lexer) (count more : Nat) :
    lexer.after (count + more) = (lexer.after count).after more := by
  induction more with
  | zero => rfl
  | succ more ih =>
    show (lexer.after (count + more)).next.lexer = ((lexer.after count).after more).next.lexer
    rw [ih]

/-- The first of a number of steps can be taken apart from the others. -/
theorem after_succ (lexer : Lexer) (count : Nat) :
    lexer.after (count + 1) = lexer.next.lexer.after count := by
  rw [Nat.add_comm, after_add]
  rfl

/-- A lexer that has finished stays what it is. -/
theorem after_of_finished (h : lexer.finished = true) (count : Nat) :
    lexer.after count = lexer := by
  induction count with
  | zero => rfl
  | succ count ih =>
    show (lexer.after count).next.lexer = lexer
    rw [ih, next_of_finished h]

/-- The tokens that were given are counted. -/
theorem tokens_after (lexer : Lexer) (count : Nat) :
    (lexer.after count).metrics.tokens = lexer.metrics.tokens + lexer.tokensWithin count := by
  induction count with
  | zero => rfl
  | succ count ih =>
    have hnext := (lexer.after count).tokens_next
    have hwithin : lexer.tokensWithin (count + 1) = lexer.tokensWithin count +
        if (lexer.after count).next.item.any Except.isOk then 1 else 0 := by
      rw [tokensWithin, List.range_succ, List.countP_append, List.countP_singleton]
      rfl
    show (lexer.after count).next.lexer.metrics.tokens = _
    omega

/-- A step counts no more tokens than are allowed. -/
theorem tokens_next_le (h : lexer.metrics.tokens ≤ Limits.tokenCount) :
    lexer.next.lexer.metrics.tokens ≤ Limits.tokenCount := by
  by_cases hfinished : lexer.finished = true
  · rw [next_of_finished hfinished]
    exact h
  · rcases step_cases (Bool.not_eq_true _ ▸ hfinished) with
      ⟨hnext, -⟩ | ⟨_, _, hnext, -, -⟩ | ⟨_, _, -, hlimit, -, -⟩
    · rw [hnext]
      exact h
    · rw [hnext]
      exact h
    · have htokens := lexer.tokens_next
      split at htokens <;> omega

/-- A lexer never counts more tokens than are allowed. -/
theorem tokens_after_le (h : lexer.metrics.tokens ≤ Limits.tokenCount) (count : Nat) :
    (lexer.after count).metrics.tokens ≤ Limits.tokenCount := by
  induction count with
  | zero => exact h
  | succ count ih => exact tokens_next_le ih

/-- A lexer has finished after some steps just if one of them ended it. -/
theorem finished_after_iff (h : lexer.finished = false) (count : Nat) :
    (lexer.after count).finished = true ↔ ∃ earlier < count, (lexer.after earlier).next.Ends := by
  induction count with
  | zero => simp [after, h]
  | succ count ih =>
    show (lexer.after count).next.lexer.finished = true ↔ _
    rw [← ends_iff_finished]
    constructor
    · exact fun hends => ⟨count, Nat.lt_succ_self count, hends⟩
    · rintro ⟨earlier, hearlier, hends⟩
      by_cases heq : earlier = count
      · exact heq ▸ hends
      · have hfinished := ih.2 ⟨earlier, by omega, hends⟩
        rw [next_of_finished hfinished]
        exact .inl rfl

/-- After a step that ends a lexer, nothing is given and nothing changes. -/
theorem after_of_ends {count later : Nat} (h : (lexer.after count).next.Ends)
    (hlater : count < later) :
    (lexer.after later).next.item = none ∧ lexer.after later = lexer.after (count + 1) := by
  have hfinished : (lexer.after (count + 1)).finished = true := ends_iff_finished.1 h
  obtain ⟨more, rfl⟩ := Nat.exists_eq_add_of_le hlater
  rw [after_add, after_of_finished hfinished, next_of_finished hfinished]
  exact ⟨rfl, rfl⟩

/-! ## Runs -/

/-- The items of a run are what the steps give, one after the other, and then nothing. -/
theorem getElem?_items_run (lexer : Lexer) (count : Nat) :
    lexer.run.items[count]? = (lexer.after count).next.item := by
  induction count generalizing lexer with
  | zero =>
    cases hitem : lexer.next.item with
    | none => simp [items_run_of_none hitem, after, hitem]
    | some item => simp [items_run_of_item hitem, after, hitem]
  | succ count ih =>
    rw [after_succ]
    cases hitem : lexer.next.item with
    | none =>
      have hfinished := ends_iff_finished.1 (.inl hitem)
      rw [items_run_of_none hitem, after_of_finished hfinished, next_of_finished hfinished]
      rfl
    | some item =>
      rw [items_run_of_item hitem, List.getElem?_cons_succ]
      exact ih _

/-- A run gives no more items than there are characters. -/
theorem length_items_run_le (lexer : Lexer) :
    lexer.run.items.length ≤ lexer.cursor.rest.length := by
  induction hremaining : lexer.remaining using Nat.strongRecOn generalizing lexer with
  | ind _ ih =>
    cases hitem : lexer.next.item with
    | none => simp [items_run_of_none hitem]
    | some item =>
      have hlt := lexer.remaining_next_lt (by simp [hitem])
      have hrest := ih _ (by omega) lexer.next.lexer rfl
      rw [items_run_of_item hitem, List.length_cons]
      by_cases hends : lexer.next.Ends
      · -- A further token is refused in front of a character.
        rw [items_run_of_finished (ends_iff_finished.1 hends), List.length_nil]
        have hfinished : lexer.finished = false := by
          cases hfinished : lexer.finished with
          | false => rfl
          | true => simp [next_of_finished hfinished] at hitem
        rcases hends with hnone | ⟨count, span, herror⟩
        · simp [hitem] at hnone
        · obtain ⟨-, gap, first, tail, htext, -⟩ := (item_eq_tooManyTokens_iff hfinished).1 herror
          simp [htext]
          omega
      · obtain ⟨taken, ⟨htext, -⟩, hnonempty⟩ := lexer.exists_passes_next
        have hpositive := List.length_pos_iff.2 (hnonempty hends)
        have hlength := congrArg List.length htext
        rw [List.length_append] at hlength
        omega

/-- The tokens in front of the first error are taken one by one. -/
theorem takeTokens_cons {token : Token} (h : lexer.next.item = some (.ok token)) :
    lexer.takeTokens.tokens = token :: lexer.next.lexer.takeTokens.tokens ∧
      lexer.takeTokens.failure = lexer.next.lexer.takeTokens.failure ∧
      lexer.takeTokens.lexer = lexer.next.lexer.takeTokens.lexer := by
  obtain ⟨_, htaken⟩ := takeTokensFrom_eq [token] (lexer.next.events.reverse ++ []) lexer.next.lexer
  rw [takeTokens, takeTokensFrom_of_token [] [] h, htaken]
  exact ⟨rfl, rfl, rfl⟩

/-- The items of a run are the tokens in front of the first error, and then nothing or the error and
further items. -/
theorem items_run_eq (lexer : Lexer) :
    (lexer.takeTokens.failure = none ∧ lexer.run.items = lexer.takeTokens.tokens.map .ok) ∨
    ∃ error later, lexer.takeTokens.failure = some error ∧
      lexer.run.items = lexer.takeTokens.tokens.map .ok ++ .error error :: later := by
  induction hremaining : lexer.remaining using Nat.strongRecOn generalizing lexer with
  | ind _ ih =>
    cases hitem : lexer.next.item with
    | none =>
      refine .inl ?_
      rw [items_run_of_none hitem, takeTokens, takeTokensFrom_of_none [] [] hitem]
      exact ⟨rfl, rfl⟩
    | some item =>
      have hlt := lexer.remaining_next_lt (by simp [hitem])
      cases item with
      | error error =>
        refine .inr ⟨error, lexer.next.lexer.run.items, ?_⟩
        rw [items_run_of_item hitem, takeTokens, takeTokensFrom_of_error [] [] hitem]
        exact ⟨rfl, rfl⟩
      | ok token =>
        obtain ⟨htokens, hfailure, -⟩ := takeTokens_cons hitem
        rw [items_run_of_item hitem, htokens, hfailure]
        rcases ih _ (by omega) lexer.next.lexer rfl with
          ⟨hnone, hitems⟩ | ⟨error, later, hsome, hitems⟩
        · exact .inl ⟨hnone, by rw [hitems]; rfl⟩
        · exact .inr ⟨error, later, hsome, by rw [hitems]; rfl⟩

/-- Which error comes first can be told from the items. -/
theorem first_error_unique {tokens tokens' : List Token} {error error' : LexicalError}
    {later later' : List Item}
    (h : tokens.map .ok ++ .error error :: later = tokens'.map .ok ++ .error error' :: later') :
    error = error' := by
  induction tokens generalizing tokens' with
  | nil =>
    cases tokens' with
    | nil => simpa using (List.cons.inj h).1
    | cons token tokens' => cases (List.cons.inj h).1
  | cons token tokens ih =>
    cases tokens' with
    | nil => cases (List.cons.inj h).1
    | cons token' tokens' => exact ih (List.cons.inj h).2

end Lexer

/-- Tokenizing gives all items if no error is among them, and else the first error. -/
theorem tokenize_eq_ok_iff (preferences : LexicalPreferences) (source : String)
    (tokens : List Token) :
    tokenize preferences source = .ok tokens ↔
      (Lexer.ofString preferences source).run.items = tokens.map .ok := by
  unfold tokenize Lexer.Tokens.result
  rcases Lexer.items_run_eq (.ofString preferences source) with
    ⟨hnone, hitems⟩ | ⟨error, later, hsome, hitems⟩
  · rw [hnone, hitems, List.map_inj_right fun _ _ h => Except.ok.inj h]
    exact ⟨Except.ok.inj, congrArg Except.ok⟩
  · rw [hsome, hitems]
    refine ⟨fun h => (nomatch h), fun h => ?_⟩
    have hmem : (.error error : Item) ∈ tokens.map .ok := by
      rw [← h]
      simp
    simp at hmem

/-- Tokenizing fails just with the first error among the items. -/
theorem tokenize_eq_error_iff (preferences : LexicalPreferences) (source : String)
    (error : LexicalError) :
    tokenize preferences source = .error error ↔
      ∃ (tokens : List Token) (later : List Item), (Lexer.ofString preferences source).run.items =
        tokens.map .ok ++ .error error :: later := by
  unfold tokenize Lexer.Tokens.result
  rcases Lexer.items_run_eq (.ofString preferences source) with
    ⟨hnone, hitems⟩ | ⟨first, later, hsome, hitems⟩
  · rw [hnone, hitems]
    refine ⟨fun h => (nomatch h), fun ⟨tokens, later, h⟩ => ?_⟩
    have hmem : (.error error : Item) ∈
        (Lexer.ofString preferences source).takeTokens.tokens.map .ok := by
      rw [h]
      simp
    simp at hmem
  · rw [hsome, hitems]
    constructor
    · intro h
      cases h
      exact ⟨_, later, rfl⟩
    · rintro ⟨tokens, later', h⟩
      rw [Lexer.first_error_unique h]

/-- Whatever number of steps is taken over a source: a step passes at least one character unless it
ends the lexer; at most as many tokens are given as are allowed; a further token is refused just if
that many were given and a character other than white space is left, with an error about the empty
span in front of it; and nothing is given and nothing changes behind the step that ends the lexer.
So a run gives what its steps give, no more items than there are characters, and tokenizing gives
all of them if no error is among them, and else the first error. -/
theorem steps_bounded (preferences : LexicalPreferences) (source : String) :
    let lexer := Lexer.ofString preferences source
    (∀ calls, ¬ (lexer.after calls).next.Ends → ∃ taken, taken ≠ [] ∧
      (lexer.after calls).cursor.Passes taken (lexer.after (calls + 1)).cursor) ∧
    (∀ calls, lexer.tokensWithin calls ≤ Limits.tokenCount) ∧
    (∀ calls count span,
      (lexer.after calls).next.item = some (.error (.tooManyTokens count span)) ↔
        (∀ earlier < calls, ¬ (lexer.after earlier).next.Ends) ∧
        lexer.tokensWithin calls = Limits.tokenCount ∧
        ∃ gap first tail, (lexer.after calls).cursor.rest = gap ++ first :: tail ∧
          (∀ char ∈ gap, isBlank char = true) ∧ isBlank first = false ∧
          count = Limits.tokenCount + 1 ∧
          span = .point ((lexer.after calls).location.advanceOver gap)) ∧
    (∀ calls later, (lexer.after calls).next.Ends → calls < later →
      (lexer.after later).next.item = none ∧ lexer.after later = lexer.after (calls + 1)) ∧
    (∀ calls, lexer.run.items[calls]? = (lexer.after calls).next.item) ∧
    lexer.run.items.length ≤ source.length ∧
    (∀ tokens, tokenize preferences source = .ok tokens ↔ lexer.run.items = tokens.map .ok) ∧
    ∀ error, tokenize preferences source = .error error ↔
      ∃ (tokens : List Token) (later : List Item),
        lexer.run.items = tokens.map .ok ++ .error error :: later := by
  intro lexer
  have hcount : ∀ calls, (lexer.after calls).metrics.tokens = lexer.tokensWithin calls := by
    intro calls
    rw [lexer.tokens_after calls]
    exact Nat.zero_add _
  have hbound : ∀ calls, lexer.tokensWithin calls ≤ Limits.tokenCount := by
    intro calls
    rw [← hcount]
    exact Lexer.tokens_after_le (Nat.zero_le _) calls
  refine ⟨fun calls hends => ?_, hbound, fun calls count span => ?_,
    fun calls later hends hlater => Lexer.after_of_ends hends hlater, lexer.getElem?_items_run, ?_,
    tokenize_eq_ok_iff preferences source, tokenize_eq_error_iff preferences source⟩
  · obtain ⟨taken, hpasses, hnonempty⟩ := (lexer.after calls).exists_passes_next
    exact ⟨taken, hnonempty hends, hpasses⟩
  · have hfinished := @Lexer.finished_after_iff lexer rfl calls
    by_cases hend : (lexer.after calls).finished = true
    · -- A lexer that has finished refuses nothing.
      obtain ⟨earlier, hearlier, hends⟩ := hfinished.1 hend
      rw [Lexer.next_of_finished hend]
      exact ⟨fun h => (nomatch h), fun ⟨h, _⟩ => absurd hends (h earlier hearlier)⟩
    · have hopen : ∀ earlier < calls, ¬ (lexer.after earlier).next.Ends :=
        fun earlier hearlier hends => hend (hfinished.2 ⟨earlier, hearlier, hends⟩)
      rw [Lexer.item_eq_tooManyTokens_iff (Bool.not_eq_true _ ▸ hend), hcount]
      have hle := hbound calls
      constructor
      · rintro ⟨hlimit, gap, first, tail, hrest, hgap, hvisible, hnumber, hspan⟩
        have hfull : lexer.tokensWithin calls = Limits.tokenCount := by omega
        exact ⟨hopen, hfull, gap, first, tail, hrest, hgap, hvisible, hfull ▸ hnumber, hspan⟩
      · rintro ⟨-, hfull, gap, first, tail, hrest, hgap, hvisible, hnumber, hspan⟩
        exact ⟨Nat.le_of_eq hfull.symm, gap, first, tail, hrest, hgap, hvisible,
          hfull.symm ▸ hnumber, hspan⟩
  · have hlength := lexer.length_items_run_le
    have hsource : lexer.cursor.rest.length = source.length := String.length_toList
    omega

/-- Of a word and a character that begins nothing there are two items; the third step ends the
lexer, and nothing changes behind it. -/
theorem steps_bounded_symbol :
    let lexer := Lexer.ofString default "x @"
    ¬ (lexer.after 1).next.Ends ∧ (lexer.after 2).next.Ends ∧
      (∃ taken, taken ≠ [] ∧ (lexer.after 1).cursor.Passes taken (lexer.after 2).cursor) ∧
      (lexer.after 9).next.item = none ∧ lexer.after 9 = lexer.after 3 ∧
      lexer.run.items[1]? =
        some (.error (.token ⟨.malformedSymbol, "@", ⟨⟨1, 3⟩, ⟨1, 4⟩⟩⟩)) := by
  intro lexer
  obtain ⟨hpasses, -, -, hends, hitems, -⟩ := steps_bounded default "x @"
  have hsecond : (lexer.after 1).next.item =
      some (.error (.token ⟨.malformedSymbol, "@", ⟨⟨1, 3⟩, ⟨1, 4⟩⟩⟩)) := by
    with_unfolding_all rfl
  have hopen : ¬ (lexer.after 1).next.Ends := by
    simp [Lexer.Step.Ends, hsecond]
  have hthird : (lexer.after 2).next.Ends := .inl (by with_unfolding_all rfl)
  obtain ⟨hnone, hsame⟩ := hends 2 9 hthird (by decide)
  exact ⟨hopen, hthird, hpasses 1 hopen, hnone, hsame, (hitems 1).trans hsecond⟩

end VinylSyntax
