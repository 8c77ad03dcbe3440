import VinylSyntax.Proofs.Acceptance
import VinylSyntax.Proofs.Lexemes
import VinylSyntax.Proofs.Locality

/-!
# Sources that go on

Where a lexeme ends depends on at most two characters behind it. So a source that goes on has the
same items up to those two characters, errors included (`items_run_extended`), and the same tokens
are ahead (`Lexer.Extends.prefix_ahead`). As the parser does not look behind a token that it
refuses, the error about such a token stays the same, whatever text is written behind the source:
see `parseSource_extended`.
-/

namespace VinylSyntax

/-- A line comment ends with the line. -/
theorem Lexeme.behind_line {first : Char} {rest text : List Char}
    (h : (split first rest).1 = .comment text) (hslashes : ['/', '/'] <+: text) :
    (split first rest).2 = [] ∨ (split first rest).2.head? = some '\n' := by
  have hform := split_form first rest
  rw [h] at hform
  cases hform with
  | line hinner hrest =>
    cases hbehind : (split first rest).2 with
    | nil => exact .inl rfl
    | cons char behind => simpa [hbehind] using hrest
  | block hopens hfirst =>
    -- The second character of a block comment is no slash.
    obtain ⟨inner, rfl⟩ := hopens
    simp at hslashes

namespace Lexer

variable {lexer other : Lexer} {more : List Char}

/-- A lexer stands where another one does, with further text behind the text of that. -/
structure Extends (lexer other : Lexer) (more : List Char) : Prop where
  finished_eq : lexer.finished = false
  other_finished : other.finished = false
  tokens_eq : other.metrics.tokens = lexer.metrics.tokens
  location_eq : other.location = lexer.location
  rest_eq : other.cursor.rest = lexer.cursor.rest ++ more

/-- A lexer of a longer source goes on where that of the shorter one ends. -/
theorem extends_ofString (preferences : LexicalPreferences) (source more : String) :
    (ofString preferences source).Extends (ofString preferences (source ++ more)) more.toList :=
  ⟨rfl, rfl, rfl, rfl, String.toList_append⟩

/-- A lexeme with two characters behind it is the next one also if more text follows. -/
theorem Extends.lexes {gap tail : List Char} {first : Char} (h : lexer.Extends other more)
    (hlexes : lexer.Lexes gap first tail) (hroom : 2 ≤ (Lexeme.split first tail).2.length) :
    ∃ tail', other.Lexes gap first tail' ∧ Lexeme.split first tail' =
      ((Lexeme.split first tail).1, (Lexeme.split first tail).2 ++ more) := by
  obtain ⟨char, next, rest, hbehind⟩ : ∃ char next rest,
      (Lexeme.split first tail).2 = char :: next :: rest := by
    cases hbehind : (Lexeme.split first tail).2 with
    | nil => simp [hbehind] at hroom
    | cons char behind =>
      cases behind with
      | nil => simp [hbehind] at hroom
      | cons next rest => exact ⟨char, next, rest, rfl⟩
  -- A comment without end would have left nothing.
  have hclosed : ∀ text, (Lexeme.split first tail).1 ≠ .openComment text := by
    intro text hopen
    simp [Lexeme.split_openComment hopen] at hroom
  have hrest : other.cursor.rest =
      gap ++ ((Lexeme.split first tail).1.text ++ (char :: next :: rest ++ more)) := by
    rw [h.rest_eq, hlexes.rest_eq, ← Lexeme.text_append_rest first tail, hbehind]
    simp
  have hborder : Border (Lexeme.split first tail).2 (char :: next :: rest ++ more) := by
    rw [hbehind]
    exact .same rfl (.inl rfl)
  rw [hbehind]
  exact hlexes.replace hclosed h.other_finished (h.tokens_eq ▸ hlexes.tokens_lt) hlexes.blank
    hrest hborder fun text hlexeme hslashes => by
      have hline := Lexeme.behind_line hlexeme hslashes
      rw [hbehind] at hline
      simpa using hline

/-- An item with two characters behind it is the next one also if more text follows. -/
theorem Extends.next {item : Item} (h : lexer.Extends other more)
    (hitem : lexer.next.item = some item) (hroom : 2 ≤ lexer.next.lexer.cursor.rest.length) :
    other.next.item = some item ∧
      (¬ lexer.next.Ends → lexer.next.lexer.Extends other.next.lexer more) := by
  rcases next_cases h.finished_eq with ⟨-, hnone, -⟩ | ⟨-, -, -, count, span, hrefused⟩ |
    ⟨gap, first, tail, hlexes⟩
  · simp [hnone] at hitem
  · refine ⟨?_, fun hopen => absurd (.inr ⟨count, span, hrefused⟩) hopen⟩
    obtain ⟨hlimit, gap, first, tail, hrest, hgap, hvisible, hcount, hspan⟩ :=
      (item_eq_tooManyTokens_iff h.finished_eq).1 hrefused
    rw [← hitem, hrefused, item_eq_tooManyTokens_iff h.other_finished, h.tokens_eq,
      h.location_eq]
    exact ⟨hlimit, gap, first, tail ++ more, by rw [h.rest_eq, hrest]; simp, hgap, hvisible,
      hcount, hspan⟩
  · rw [hlexes.rest_next] at hroom
    obtain ⟨tail', hlexes', hsplit⟩ := h.lexes hlexes hroom
    have hitem' : other.next.item = some item := by
      rw [← hitem, hlexes'.item_eq, hsplit, h.location_eq, hlexes.item_eq]
    refine ⟨hitem', fun _ => ⟨hlexes.finished_next, hlexes'.finished_next, ?_, ?_, ?_⟩⟩
    · rw [tokens_next, tokens_next, hitem, hitem', h.tokens_eq]
    · rw [hlexes.location_next, hlexes'.location_next, hsplit, h.location_eq]
    · rw [hlexes.rest_next, hlexes'.rest_next, hsplit]

/-- What was passed up to a place that is not behind another one is a part of what is in front of
that. -/
theorem exists_middle {location : Location} {passed rest front back : List Char}
    (h : passed ++ rest = front ++ back)
    (hle : location.advanceOver passed ≤ location.advanceOver front) :
    ∃ middle, front = passed ++ middle ∧ rest = middle ++ back := by
  rcases List.append_eq_append_iff.1 h with ⟨middle, hfront, hrest⟩ | ⟨extra, rfl, hback⟩
  · exact ⟨middle, hfront, hrest⟩
  · obtain rfl : extra = [] := by
      cases extra with
      | nil => rfl
      | cons char extra =>
        rw [Location.advanceOver_append] at hle
        exact absurd (Location.lt_advanceOver _ (List.cons_ne_nil char extra))
          (Location.not_lt_of_le hle)
    exact ⟨[], by simp, by simpa using hback.symm⟩

/-- What is in front of a place that a step does not pass is what the step passes, and more. -/
theorem exists_middle_next {front back : List Char} (hrest : lexer.cursor.rest = front ++ back)
    (hle : lexer.next.lexer.location ≤ lexer.location.advanceOver front) :
    ∃ middle, lexer.next.lexer.cursor.rest = middle ++ back ∧
      lexer.next.lexer.location.advanceOver middle = lexer.location.advanceOver front := by
  obtain ⟨passed, ⟨hpassed, hnext⟩, -⟩ := lexer.exists_passes_next
  have hlocation : lexer.next.lexer.location = lexer.location.advanceOver passed :=
    congrArg Cursor.location hnext
  rw [hlocation] at hle ⊢
  obtain ⟨middle, rfl, hmiddle⟩ := exists_middle (hpassed.symm.trans hrest) hle
  exact ⟨middle, hmiddle, (Location.advanceOver_append _ _ _).symm⟩

/-! ## Items of a run -/

/-- Behind the first item, a run gives the items of the run from there. -/
theorem run_succ {index : Nat} {item : Item} (h : lexer.run.items[index + 1]? = some item) :
    ¬ lexer.next.Ends ∧ (∃ first, lexer.next.item = some first) ∧
      lexer.next.lexer.run.items[index]? = some item := by
  have hbehind : lexer.next.lexer.run.items[index]? = some item := by
    rw [getElem?_items_run, ← after_succ, ← getElem?_items_run]
    exact h
  have hopen : ¬ lexer.next.Ends := by
    intro hends
    rw [items_run_of_finished (ends_iff_finished.1 hends)] at hbehind
    cases hbehind
  refine ⟨hopen, ?_, hbehind⟩
  cases hitem : lexer.next.item with
  | none => exact absurd (.inl hitem) hopen
  | some first => exact ⟨first, rfl⟩

/-- The items of a run end where the first one does, or behind that. -/
theorem next_le_stop_of_run {index : Nat} {item : Item}
    (h : lexer.run.items[index]? = some item) : lexer.next.lexer.location ≤ item.span.stop := by
  induction index generalizing lexer with
  | zero =>
    have hitem : lexer.next.item = some item := (getElem?_items_run lexer 0).symm.trans h
    rw [location_next_of_item hitem]
    exact Location.le_refl _
  | succ index ih =>
    obtain ⟨-, -, hbehind⟩ := run_succ h
    exact Location.le_trans (location_le_next _) (ih hbehind)

/-- Items behind which two characters are left are given also if more text follows. -/
theorem Extends.items_run {index : Nat} {item : Item} {front back : List Char}
    (h : lexer.Extends other more) (hitem : lexer.run.items[index]? = some item)
    (hrest : lexer.cursor.rest = front ++ back) (hback : 2 ≤ back.length)
    (hstop : item.span.stop = lexer.location.advanceOver front) :
    other.run.items[index]? = some item := by
  -- No step up to the item passes its end, so two characters are left behind each of them.
  induction index generalizing lexer other front with
  | zero =>
    have hle := next_le_stop_of_run hitem
    obtain ⟨middle, hmiddle, -⟩ := exists_middle_next hrest (hstop ▸ hle)
    rw [getElem?_items_run] at hitem ⊢
    exact (h.next hitem (by rw [hmiddle, List.length_append]; omega)).1
  | succ index ih =>
    have hle := next_le_stop_of_run hitem
    obtain ⟨middle, hmiddle, hmiddle'⟩ := exists_middle_next hrest (hstop ▸ hle)
    obtain ⟨hopen, ⟨first, hfirst⟩, hbehind⟩ := run_succ hitem
    obtain ⟨hfirst', hextends⟩ := h.next hfirst (by rw [hmiddle, List.length_append]; omega)
    rw [items_run_of_item hfirst', List.getElem?_cons_succ]
    exact ih (hextends hopen) hbehind hmiddle (hstop.trans hmiddle'.symm)

/-! ## Tokens ahead -/

/-- If tokens are ahead, the next item is a token. -/
theorem exists_token_of_ahead (h : lexer.ahead.tokens ≠ []) :
    ∃ first, lexer.next.item = some (.ok first) := by
  cases hitem : lexer.next.item with
  | none => exact absurd (by rw [ahead_of_none hitem]) h
  | some item =>
    cases item with
    | error error => exact absurd (by rw [ahead_of_error hitem]) h
    | ok first => exact ⟨first, rfl⟩

/-- Tokens that are ahead end where the next one does, or behind that. -/
theorem next_le_stop {first token : Token} (hitem : lexer.next.item = some (.ok first))
    (h : token ∈ lexer.ahead.tokens) : lexer.next.lexer.location ≤ token.span.stop := by
  induction hremaining : lexer.remaining using Nat.strongRecOn generalizing lexer first with
  | ind _ ih =>
    have hlt := lexer.remaining_next_lt (by simp [hitem])
    have hcases : token = first ∨ token ∈ lexer.next.lexer.ahead.tokens := by
      rw [ahead_of_token hitem, Ahead.push] at h
      split at h
      · exact .inr h
      · exact List.mem_cons.1 h
    rcases hcases with rfl | hmem
    · rw [location_next_of_item hitem]
      exact Location.le_refl _
    · obtain ⟨second, hsecond⟩ := exists_token_of_ahead (List.ne_nil_of_mem hmem)
      exact Location.le_trans (location_le_next _) (ih _ (by omega) hsecond hmem rfl)

/-- Tokens behind which two characters are left are ahead also if more text follows. -/
theorem Extends.prefix_ahead {taken : List Token} {token : Token} {front back : List Char}
    (h : lexer.Extends other more) (hahead : taken ++ [token] <+: lexer.ahead.tokens)
    (hrest : lexer.cursor.rest = front ++ back) (hback : 2 ≤ back.length)
    (hstop : token.span.stop = lexer.location.advanceOver front) :
    taken ++ [token] <+: other.ahead.tokens := by
  induction hremaining : lexer.remaining using Nat.strongRecOn
    generalizing lexer other taken front with
  | ind _ ih =>
    have hmem : token ∈ lexer.ahead.tokens := hahead.subset (by simp)
    obtain ⟨first, hitem⟩ := exists_token_of_ahead (List.ne_nil_of_mem hmem)
    have hlt := lexer.remaining_next_lt (by simp [hitem])
    have hle := next_le_stop hitem hmem
    obtain ⟨middle, hmiddle, hmiddle'⟩ := exists_middle_next hrest (hstop ▸ hle)
    obtain ⟨hitem', hextends⟩ := h.next hitem (by rw [hmiddle, List.length_append]; omega)
    have hextends := hextends (by simp [Step.Ends, hitem])
    have hstop' := hstop.trans hmiddle'.symm
    rw [ahead_of_token hitem, Ahead.push] at hahead
    rw [ahead_of_token hitem', Ahead.push]
    split at hahead
    · next hcomment =>
      rw [if_pos hcomment]
      exact ih _ (by omega) hextends hahead hmiddle hstop' rfl
    · next hcomment =>
      rw [if_neg hcomment]
      cases taken with
      | nil =>
        obtain ⟨rfl, -⟩ := List.cons_prefix_cons.1 hahead
        exact List.cons_prefix_cons.2 ⟨rfl, List.nil_prefix⟩
      | cons second taken =>
        obtain ⟨rfl, hbehind⟩ := List.cons_prefix_cons.1 hahead
        exact List.cons_prefix_cons.2
          ⟨rfl, ih _ (by omega) hextends hbehind hmiddle hstop' rfl⟩

end Lexer

/-- An item of a source is settled by two characters behind its lexeme: if these are there, the item
is given in the same place, be it a token or an error, whatever is written behind the source. -/
theorem items_run_extended (preferences : LexicalPreferences) {source : String} {index : Nat}
    {item : Item} {stop : Nat} (more : String)
    (h : (Lexer.ofString preferences source).run.items[index]? = some item)
    (hstop : item.span.stop = Location.start.advanceOver (source.toList.take stop))
    (hroom : stop + 2 ≤ source.length) :
    (Lexer.ofString preferences (source ++ more)).run.items[index]? = some item := by
  have hlength : 2 ≤ (source.toList.drop stop).length := by
    rw [List.length_drop, String.length_toList]
    omega
  exact (Lexer.extends_ofString preferences source more).items_run h
    (List.take_append_drop stop source.toList).symm hlength hstop

/-- An error about a character stays what it is if the text goes on with an open comment. -/
theorem items_run_extended_openComment :
    (Lexer.ofString default ("x @;/" ++ "*")).run.items[1]? =
      some (.error (.token ⟨.malformedSymbol, "@", ⟨⟨1, 3⟩, ⟨1, 4⟩⟩⟩)) := by
  have hitem : (Lexer.ofString default "x @;/").run.items[1]? =
      some (.error (.token ⟨.malformedSymbol, "@", ⟨⟨1, 3⟩, ⟨1, 4⟩⟩⟩)) := by
    with_unfolding_all rfl
  have hstop : (⟨1, 4⟩ : Location) = Location.start.advanceOver ("x @;/".toList.take 3) := by decide
  exact items_run_extended default "*" hitem hstop (by decide)

/-- Text behind a token that is refused does not change the error: if at least two characters stand
behind the token, the source is refused with the same error whatever is written behind it. -/
theorem parseSource_extended (preferences : Preferences) {source : String}
    {expected : Expectation} {token : Token} {stop : Nat} (more : String)
    (h : (parseSource preferences source).result = .error (.unexpectedToken expected token))
    (hstop : token.span.stop = Location.start.advanceOver (source.toList.take stop))
    (hroom : stop + 2 ≤ source.length) :
    (parseSource preferences (source ++ more)).result =
      .error (.unexpectedToken expected token) := by
  have hparser : (Parser.ofSource preferences source).parse.1 =
      .error (.unexpectedToken expected token) := h
  obtain ⟨taken, htaken, hother⟩ := Parser.parse_of_prefix hparser
  refine hother (Parser.ofSource preferences (source ++ more)) ?_
  rw [Parser.ofSource, Parser.ahead_ofLexer] at htaken ⊢
  have hlength : 2 ≤ (source.toList.drop stop).length := by
    rw [List.length_drop, String.length_toList]
    omega
  exact (Lexer.extends_ofString preferences.lexical source more).prefix_ahead htaken
    (List.take_append_drop stop source.toList).symm hlength hstop

/-- A missing semicolon is reported also in front of a comment that is open and of what begins no
token. -/
theorem parseSource_extended_openComment :
    (parseSource default ("x y;;" ++ "@/*")).result =
      .error (.unexpectedToken .statementEnd ⟨.identifier, "y", ⟨⟨1, 3⟩, ⟨1, 4⟩⟩⟩) := by
  have hrefused : (parseSource default "x y;;").result =
      .error (.unexpectedToken .statementEnd ⟨.identifier, "y", ⟨⟨1, 3⟩, ⟨1, 4⟩⟩⟩) := by
    with_unfolding_all rfl
  have hstop : (⟨1, 4⟩ : Location) = Location.start.advanceOver ("x y;;".toList.take 3) := by decide
  exact parseSource_extended default "@/*" hrefused hstop (by decide)

end VinylSyntax
