import VinylSyntax.Proofs.Scanning

/-!
# What the items of a text cover

Running a lexer cuts its text into pieces, each of them a gap of white space and a lexeme, and white
space behind the last one. Every piece has an item, which tells of the lexeme and is about exactly
the stretch that the lexeme takes up. Only the token limit leaves a part of the text uncut.
-/

namespace VinylSyntax

/-! ## Locations -/

namespace Location

/-- A location is no later than itself. -/
theorem le_refl (a : Location) : a ≤ a := .inr ⟨rfl, Nat.le_refl _⟩

/-- A location that comes before another one is no later. -/
theorem le_of_lt {a b : Location} (h : a < b) : a ≤ b := by
  rcases h with hline | ⟨hline, hcolumn⟩
  · exact .inl hline
  · exact .inr ⟨hline, Nat.le_of_lt hcolumn⟩

/-- A location that comes before another one comes before all that are no earlier than that. -/
theorem lt_of_lt_of_le {a b c : Location} (hab : a < b) (hbc : b ≤ c) : a < c := by
  show a.line < c.line ∨ a.line = c.line ∧ a.column < c.column
  rcases hab with hab | ⟨hline, hab⟩
  · rcases hbc with hbc | ⟨hline', -⟩
    · exact .inl (Nat.lt_trans hab hbc)
    · exact .inl (by omega)
  · rcases hbc with hbc | ⟨hline', hbc⟩
    · exact .inl (by omega)
    · exact .inr (by omega)

/-- The order of locations is transitive. -/
theorem le_trans {a b c : Location} (hab : a ≤ b) (hbc : b ≤ c) : a ≤ c := by
  rcases hab with hlt | ⟨hline, hcolumn⟩
  · exact le_of_lt (lt_of_lt_of_le (.inl hlt) hbc)
  · show a.line < c.line ∨ a.line = c.line ∧ a.column ≤ c.column
    rcases hbc with hbc | ⟨hline', hbc⟩
    · exact .inl (by omega)
    · exact .inr (by omega)

/-- A location does not come before one that is no later. -/
theorem not_lt_of_le {a b : Location} (h : a ≤ b) : ¬ b < a := by
  intro hlt
  rcases h with hline | ⟨hline, hcolumn⟩
  · rcases hlt with hlt | ⟨hlt, -⟩ <;> omega
  · rcases hlt with hlt | ⟨-, hlt⟩ <;> omega

/-- Every character leads further on. -/
theorem lt_advance (location : Location) (char : Char) : location < location.advance char := by
  unfold advance
  by_cases h : char = '\n'
  · rw [if_pos h]
    exact .inl (Nat.lt_succ_self _)
  · rw [if_neg h]
    exact .inr ⟨rfl, Nat.lt_succ_self _⟩

/-- A text never leads back. -/
theorem le_advanceOver (location : Location) (text : List Char) :
    location ≤ location.advanceOver text := by
  induction text generalizing location with
  | nil => exact le_refl location
  | cons char text ih => exact le_trans (le_of_lt (location.lt_advance char)) (ih _)

/-- A text that is not empty leads to a later location. -/
theorem lt_advanceOver (location : Location) {text : List Char} (h : text ≠ []) :
    location < location.advanceOver text := by
  obtain ⟨char, rest, rfl⟩ := List.exists_cons_of_ne_nil h
  exact lt_of_lt_of_le (location.lt_advance char) (le_advanceOver _ rest)

end Location

/-! ## Runs -/

namespace Lexer

/-- A run ends with the step that gives nothing. -/
theorem runFrom_of_none {lexer : Lexer} (items : List Item) (events : List Event)
    (h : lexer.next.item = none) :
    runFrom items events lexer =
      ⟨items.reverse, (lexer.next.events.reverse ++ events).reverse, lexer.next.lexer⟩ := by
  rw [runFrom]
  split <;> simp_all

/-- A run goes on behind a step that gives an item. -/
theorem runFrom_of_item {lexer : Lexer} {item : Item} (items : List Item) (events : List Event)
    (h : lexer.next.item = some item) :
    runFrom items events lexer =
      runFrom (item :: items) (lexer.next.events.reverse ++ events) lexer.next.lexer := by
  rw [runFrom]
  split <;> simp_all

/-- Items found before stand in front of those that follow. -/
theorem items_runFrom (items : List Item) (events : List Event) (lexer : Lexer) :
    (runFrom items events lexer).items = items.reverse ++ lexer.run.items := by
  unfold run
  induction hremaining : lexer.remaining using Nat.strongRecOn generalizing lexer items events with
  | ind _ ih =>
    cases hitem : lexer.next.item with
    | none => simp [runFrom_of_none _ _ hitem]
    | some item =>
      have hlt := lexer.remaining_next_lt (by simp [hitem])
      rw [hremaining] at hlt
      rw [runFrom_of_item items events hitem, runFrom_of_item [] [] hitem,
        ih _ hlt (item :: items) _ lexer.next.lexer rfl, ih _ hlt [item] _ lexer.next.lexer rfl]
      simp

/-- The run of a lexer that gives nothing has no items. -/
theorem items_run_of_none {lexer : Lexer} (h : lexer.next.item = none) : lexer.run.items = [] := by
  rw [run, runFrom_of_none [] [] h]
  rfl

/-- The items of a run are that of the first step and those of the run behind it. -/
theorem items_run_of_item {lexer : Lexer} {item : Item} (h : lexer.next.item = some item) :
    lexer.run.items = item :: lexer.next.lexer.run.items := by
  rw [run, runFrom_of_item [] [] h, items_runFrom]
  rfl

/-- The run of a lexer that has finished has no items. -/
theorem items_run_of_finished {lexer : Lexer} (h : lexer.finished = true) : lexer.run.items = [] :=
  items_run_of_none (by simp [next, h])

end Lexer

/-! ## Pieces -/

/-- White space and the lexeme behind it, with the item that is given for the lexeme. -/
structure Piece where
  gap : List Char
  lexeme : List Char
  item : Item

namespace Piece

/-- The characters of a piece. -/
def text (piece : Piece) : List Char := piece.gap ++ piece.lexeme

/-- The characters of several pieces. -/
def textOf (pieces : List Piece) : List Char := pieces.flatMap text

/-- The item of a piece tells of its lexeme, where the piece stands at a location and in front of
the rest of the text. -/
structure Fits (piece : Piece) (location : Location) (rest : List Char) : Prop where
  blank : ∀ char ∈ piece.gap, isBlank char = true
  nonempty : piece.lexeme ≠ []
  accounts : Item.AccountsFor piece.item piece.lexeme rest
  span_eq : Item.span piece.item =
    ⟨location.advanceOver piece.gap, location.advanceOver (piece.gap ++ piece.lexeme)⟩

/-- Pieces fit one behind the other, from a location on, in front of the rest of the text. -/
def Fit (pieces : List Piece) (location : Location) (rest : List Char) : Prop :=
  ∀ before piece after, pieces = before ++ piece :: after →
    piece.Fits (location.advanceOver (textOf before)) (textOf after ++ rest)

/-- An empty list of pieces fits anywhere. -/
theorem fit_nil (location : Location) (rest : List Char) : Fit [] location rest := by
  intro before piece after h
  cases before <;> cases h

/-- Pieces fit if the first one does, and the others fit behind it. -/
theorem fit_cons {piece : Piece} {pieces : List Piece} {location : Location} {rest : List Char}
    (hpiece : piece.Fits location (textOf pieces ++ rest))
    (hpieces : Fit pieces (location.advanceOver piece.text) rest) :
    Fit (piece :: pieces) location rest := by
  intro before other after h
  cases before with
  | nil =>
    obtain ⟨rfl, rfl⟩ := List.cons.inj h
    exact hpiece
  | cons first before =>
    obtain ⟨rfl, hafter⟩ := List.cons.inj h
    have hother := hpieces before other after hafter
    rw [← Location.advanceOver_append] at hother
    exact hother

/-- Of pieces that fit, those behind the first one fit behind it. -/
theorem Fit.tail {piece : Piece} {pieces : List Piece} {location : Location} {rest : List Char}
    (h : Fit (piece :: pieces) location rest) :
    Fit pieces (location.advanceOver piece.text) rest := by
  intro before other after hsplit
  have hother := h (piece :: before) other after (by rw [hsplit, List.cons_append])
  rw [← Location.advanceOver_append]
  exact hother

/-- What an item is about is not empty. -/
theorem Fits.start_lt_stop {piece : Piece} {location : Location} {rest : List Char}
    (h : piece.Fits location rest) :
    (Item.span piece.item).start < (Item.span piece.item).stop := by
  rw [h.span_eq]
  show location.advanceOver piece.gap < location.advanceOver (piece.gap ++ piece.lexeme)
  rw [Location.advanceOver_append]
  exact Location.lt_advanceOver _ h.nonempty

/-- What the items of pieces are about comes in order and does not overlap. -/
theorem Fit.pairwise {pieces : List Piece} {location : Location} {rest : List Char}
    (h : Fit pieces location rest) :
    (pieces.map item).Pairwise fun a b => (Item.span a).stop ≤ (Item.span b).start := by
  induction pieces generalizing location with
  | nil => exact .nil
  | cons piece pieces ih =>
    rw [List.map_cons, List.pairwise_cons]
    refine ⟨?_, ih h.tail⟩
    intro later hlater
    obtain ⟨other, hother, rfl⟩ := List.mem_map.1 hlater
    -- The later piece begins behind this one, further on by the pieces in between and its gap.
    obtain ⟨before, after, hsplit⟩ := List.append_of_mem hother
    rw [(h [] piece pieces rfl).span_eq, (h.tail before other after hsplit).span_eq]
    show location.advanceOver piece.text ≤
      ((location.advanceOver piece.text).advanceOver (textOf before)).advanceOver other.gap
    exact Location.le_trans (Location.le_advanceOver _ _) (Location.le_advanceOver _ _)

end Piece

namespace Lexer

/-- The piece that a step over a lexeme cuts off. -/
def pieceOf (lexer : Lexer) (gap : List Char) (first : Char) (tail : List Char) : Piece :=
  let lexeme := (Lexeme.split first tail).1
  ⟨gap, lexeme.text, lexeme.token
    ⟨lexer.location.advanceOver gap, lexer.location.advanceOver (gap ++ lexeme.text)⟩⟩

/-- The piece that a step takes fits where the lexer stands. -/
theorem Lexes.fits {lexer : Lexer} {gap tail : List Char} {first : Char}
    (h : lexer.Lexes gap first tail) :
    (lexer.pieceOf gap first tail).Fits lexer.location (Lexeme.split first tail).2 := by
  have haccounts := Lexeme.token_accounts (Lexeme.split first tail).1
    ⟨lexer.location.advanceOver gap,
      lexer.location.advanceOver (gap ++ (Lexeme.split first tail).1.text)⟩
    (Lexeme.split first tail).2 fun _ => Lexeme.split_openComment
  exact ⟨h.blank, Lexeme.text_ne_nil first tail, haccounts.1, haccounts.2⟩

/-- A lexer cuts its text into pieces up to the last white space, or up to the token limit. -/
theorem run_pieces {lexer : Lexer} (hfinished : lexer.finished = false) :
    ∃ pieces rest, lexer.cursor.rest = Piece.textOf pieces ++ rest ∧
      Piece.Fit pieces lexer.location rest ∧
      ((lexer.run.items = pieces.map Piece.item ∧ ∀ char ∈ rest, isBlank char = true) ∨
        ∃ count span, lexer.run.items =
          pieces.map Piece.item ++ [.error (.tooManyTokens count span)]) := by
  -- A step over a lexeme leaves less to read; the other steps are the last ones.
  induction hremaining : lexer.remaining using Nat.strongRecOn generalizing lexer with
  | ind _ ih =>
    rcases next_cases hfinished with
      ⟨hblank, hitem, -⟩ | ⟨-, -, hlast, count, span, hitem⟩ | ⟨gap, first, tail, hlexes⟩
    · exact ⟨[], lexer.cursor.rest, rfl, Piece.fit_nil _ _, .inl ⟨items_run_of_none hitem, hblank⟩⟩
    · refine ⟨[], lexer.cursor.rest, rfl, Piece.fit_nil _ _, .inr ⟨count, span, ?_⟩⟩
      rw [items_run_of_item hitem, items_run_of_finished hlast]
      rfl
    · have hlt := lexer.remaining_next_lt (by simp [hlexes.item_eq])
      obtain ⟨pieces, rest, hrest, hfit, hitems⟩ := ih _ (by omega) hlexes.finished_next rfl
      rw [hlexes.location_next] at hfit
      rw [hlexes.rest_next] at hrest
      have hpiece := hlexes.fits
      rw [hrest] at hpiece
      refine ⟨lexer.pieceOf gap first tail :: pieces, rest, ?_, Piece.fit_cons hpiece hfit, ?_⟩
      · have hcut := Lexeme.text_append_rest first tail
        rw [hrest] at hcut
        rw [hlexes.rest_eq, ← hcut]
        simp [Piece.textOf, Piece.text, pieceOf]
      · rw [items_run_of_item hlexes.item_eq]
        rcases hitems with ⟨hitems, hblank⟩ | ⟨count, span, hitems⟩
        · exact .inl ⟨by rw [hitems]; rfl, hblank⟩
        · exact .inr ⟨count, span, by rw [hitems]; rfl⟩

end Lexer

/-- Unless the token limit is hit, the pieces of a source make up all of it but for white space at
the end. Their items are those that the lexer gives, in order; they tell of the lexemes, and what
they are about is not empty, comes in order and does not overlap. -/
theorem run_covers_source (preferences : LexicalPreferences) (source : String)
    (hlimit : ∀ count span, (.error (.tooManyTokens count span) : Item) ∉
      (Lexer.ofString preferences source).run.items) :
    ∃ pieces last, source.toList = Piece.textOf pieces ++ last ∧
      (∀ char ∈ last, isBlank char = true) ∧
      (Lexer.ofString preferences source).run.items = pieces.map Piece.item ∧
      Piece.Fit pieces .start last ∧
      (∀ item ∈ (Lexer.ofString preferences source).run.items,
        (Item.span item).start < (Item.span item).stop) ∧
      (Lexer.ofString preferences source).run.items.Pairwise
        fun a b => (Item.span a).stop ≤ (Item.span b).start := by
  have hfinished : (Lexer.ofString preferences source).finished = false := rfl
  obtain ⟨pieces, last, htext, hfit, ⟨hitems, hblank⟩ | ⟨count, span, hitems⟩⟩ :=
    Lexer.run_pieces hfinished
  · refine ⟨pieces, last, htext, hblank, hitems, hfit, ?_, ?_⟩
    · intro item hitem
      rw [hitems] at hitem
      obtain ⟨piece, hpiece, rfl⟩ := List.mem_map.1 hitem
      obtain ⟨before, after, hsplit⟩ := List.append_of_mem hpiece
      exact (hfit before piece after hsplit).start_lt_stop
    · rw [hitems]
      exact hfit.pairwise
  · exact absurd (by simp [hitems]) (hlimit count span)

/-- A word and a comment without end make up a text that consists of both. -/
theorem run_covers_openComment :
    (Lexer.ofString default "x /*").run.items =
        [.ok ⟨.identifier, "x", ⟨⟨1, 1⟩, ⟨1, 2⟩⟩⟩,
          .error (.unterminatedComment ⟨⟨1, 3⟩, ⟨1, 5⟩⟩)] ∧
      ∃ pieces last, "x /*".toList = Piece.textOf pieces ++ last ∧
        Piece.Fit pieces .start last := by
  have hitems : (Lexer.ofString default "x /*").run.items =
      [.ok ⟨.identifier, "x", ⟨⟨1, 1⟩, ⟨1, 2⟩⟩⟩,
        .error (.unterminatedComment ⟨⟨1, 3⟩, ⟨1, 5⟩⟩)] := by
    decide +kernel
  obtain ⟨pieces, last, htext, -, -, hfit, -⟩ :=
    run_covers_source default "x /*" (by simp [hitems])
  exact ⟨hitems, pieces, last, htext, hfit⟩

end VinylSyntax
