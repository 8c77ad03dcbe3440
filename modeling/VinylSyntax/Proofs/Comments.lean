import VinylSyntax.Proofs.Lexemes

/-!
# Where comments end

The scan of a block comment remembers one character only and begins behind the opening mark, so the
slash that closes the comment cannot be that of the opening mark, nor its asterisk. A block comment
is therefore the shortest beginning of the text that ends with the closing mark and has room for
both marks; a line comment goes on to the first newline. `comment_extent` says so of every comment
that a lexer comes to, and what becomes of it.
-/

namespace VinylSyntax

namespace Lexer

/-- A step stands in front of a lexeme of a source, gives the item that is made of it, and leads
right behind it. -/
structure Step.Cuts (step : Step) (front : List Char) (lexeme : Lexeme) (rest : List Char) :
    Prop where
  item_eq : step.item = some (lexeme.token ⟨Location.start.advanceOver front,
    Location.start.advanceOver (front ++ lexeme.text)⟩)
  finished_eq : step.lexer.finished = false
  offset_eq : step.lexer.cursor.offset = front.length + lexeme.text.length
  rest_eq : step.lexer.cursor.rest = rest

/-- Any step over a source that does not end the lexer cuts off the lexeme that stands at the first
place without white space. -/
theorem cuts_of_not_ends {preferences : LexicalPreferences} {source : String} {count : Nat}
    (h : ¬ ((ofString preferences source).after count).next.Ends) :
    ∃ front first tail, source.toList = front ++ first :: tail ∧
      ((ofString preferences source).after count).skipBlank.cursor.offset = front.length ∧
      ((ofString preferences source).after count).next.Cuts front (Lexeme.split first tail).1
        (Lexeme.split first tail).2 := by
  obtain ⟨first, tail, hlexes, hnext, hrest⟩ := lexes_of_not_ends h
  obtain ⟨passed, hpasses⟩ := (ofString preferences source).exists_passes_after count
  obtain ⟨hsource, hcursor⟩ := hpasses.trans (passes_skipBlank _)
  rw [hrest] at hsource hcursor
  generalize passed ++ gapOf ((ofString preferences source).after count).cursor.rest = front
    at hsource hcursor
  have hoffset : ((ofString preferences source).after count).skipBlank.cursor.offset =
      front.length := by
    rw [hcursor]
    exact Nat.zero_add _
  have hlocation : ((ofString preferences source).after count).skipBlank.location =
      Location.start.advanceOver front := by
    rw [location, hcursor]
    rfl
  refine ⟨front, first, tail, hsource, hoffset, ?_, hlexes.finished_next, ?_, hlexes.rest_next⟩
  · rw [hnext, lex, item_settle, Location.advanceOver_append, ← hlocation]
    rfl
  · rw [hnext, lex, cursor_settle, ← hoffset]
    rfl

/-- A step takes the comment that begins at a place of a source: it gives a token of exactly the
text of the comment or, if that is too long, an error that tells its length, and the lexer goes on
right behind the comment. -/
structure Step.TakesComment (step : Step) (source : List Char) (start : Nat)
    (comment : List Char) : Prop where
  item_eq : step.item = some (
    let span := ⟨Location.start.advanceOver (source.take start),
      Location.start.advanceOver (source.take start ++ comment)⟩
    if Limits.commentLength < comment.length then .error (.commentTooLong comment.length span)
    else .ok ⟨.comment, String.ofList comment, span⟩)
  finished_eq : step.lexer.finished = false
  offset_eq : step.lexer.cursor.offset = start + comment.length
  rest_eq : step.lexer.cursor.rest = source.drop (start + comment.length)

/-- A step that cuts off a comment takes it where it stands in the source. -/
theorem Step.Cuts.takesComment {step : Step} {front comment rest : List Char}
    (h : step.Cuts front (.comment comment) rest) :
    step.TakesComment (front ++ (comment ++ rest)) front.length comment := by
  refine ⟨?_, h.finished_eq, h.offset_eq, ?_⟩
  · rw [h.item_eq, List.take_left]
    rfl
  · rw [h.rest_eq, ← List.append_assoc, ← List.length_append, List.drop_left]

/-- A step over a block comment takes what closes first, or all of the text if nothing closes. -/
theorem Step.Cuts.block {step : Step} {front body : List Char}
    (h : step.Cuts front (Lexeme.splitBlock body).1 (Lexeme.splitBlock body).2) :
    (∃ comment, ClosesFirst comment ('/' :: '*' :: body) ∧
      step.TakesComment (front ++ '/' :: '*' :: body) front.length comment) ∨
    ((∀ beginning, beginning <+: '/' :: '*' :: body → ¬ Closes beginning) ∧
      step.item = some (.error (.unterminatedComment ⟨Location.start.advanceOver front,
        Location.start.advanceOver (front ++ '/' :: '*' :: body)⟩)) ∧
      step.lexer.next.item = none) := by
  rcases Lexeme.splitBlock_cases body with ⟨comment, rest, hsplit, hcut, hfirst⟩ | ⟨hsplit, hnone⟩
  · rw [hsplit] at h
    refine .inl ⟨comment, hfirst, ?_⟩
    rw [hcut]
    exact h.takesComment
  · rw [hsplit] at h
    refine .inr ⟨hnone, h.item_eq, ?_⟩
    rw [item_eq_none_iff h.finished_eq, h.rest_eq]
    simp

/-- A step over a line comment takes what is left of the line. -/
theorem Step.Cuts.line {step : Step} {front body : List Char}
    (h : step.Cuts front (Lexeme.splitLine body).1 (Lexeme.splitLine body).2) :
    step.TakesComment (front ++ '/' :: '/' :: body) front.length
      (('/' :: '/' :: body).takeWhile (· != '\n')) := by
  rw [Lexeme.splitLine_eq] at h
  have htaken := h.takesComment
  rwa [List.cons_append, List.cons_append, List.takeWhile_append_dropWhile] at htaken

end Lexer

/-- Wherever a lexer comes to the opening mark of a block comment, it takes the shortest beginning
of what is left of the source that closes; if there is none, the error is about all of that, and
nothing comes behind it. Wherever it comes to two slashes, it takes what is left of the source up to
the first newline. -/
theorem comment_extent (preferences : LexicalPreferences) (source : String) (count : Nat) :
    let lexer := (Lexer.ofString preferences source).after count
    let start := lexer.skipBlank.cursor.offset
    let text := source.toList.drop start
    ¬ lexer.next.Ends →
      (['/', '*'] <+: text →
        (∃ comment, ClosesFirst comment text ∧
          lexer.next.TakesComment source.toList start comment) ∨
        ((∀ beginning, beginning <+: text → ¬ Closes beginning) ∧
          lexer.next.item = some (.error (.unterminatedComment
            ⟨Location.start.advanceOver (source.toList.take start),
              Location.start.advanceOver source.toList⟩)) ∧
          lexer.next.lexer.next.item = none)) ∧
      (['/', '/'] <+: text →
        lexer.next.TakesComment source.toList start (text.takeWhile (· != '\n'))) := by
  intro lexer start text hopen
  obtain ⟨front, first, tail, hsource, hoffset, hcuts⟩ := Lexer.cuts_of_not_ends hopen
  have hstart : start = front.length := hoffset
  have htext : text = first :: tail := by
    show source.toList.drop start = first :: tail
    rw [hsource, hstart, List.drop_left]
  have htake : source.toList.take start = front := by
    rw [hsource, hstart, List.take_left]
  rw [htake, htext, hsource, hstart]
  refine ⟨?_, ?_⟩
  · rintro ⟨body, hbody⟩
    obtain rfl : '/' = first := (List.cons.inj hbody).1
    obtain rfl : '*' :: body = tail := (List.cons.inj hbody).2
    exact hcuts.block
  · rintro ⟨body, hbody⟩
    obtain rfl : '/' = first := (List.cons.inj hbody).1
    obtain rfl : '/' :: body = tail := (List.cons.inj hbody).2
    exact hcuts.line

/-- Neither the asterisk of the opening mark nor the slash behind it closes a comment, and no mark
counts in a line comment. -/
theorem comment_extent_overlapping :
    let lexer := (Lexer.ofString default "x /*/**/*/").after 1
    let other := (Lexer.ofString default "a//*b\nc").after 1
    (¬ lexer.next.Ends ∧ lexer.skipBlank.cursor.offset = 2 ∧
      ClosesFirst "/*/**/".toList "/*/**/*/".toList ∧
      lexer.next.TakesComment "x /*/**/*/".toList 2 "/*/**/".toList) ∧
    ¬ other.next.Ends ∧ other.skipBlank.cursor.offset = 1 ∧
      other.next.TakesComment "a//*b\nc".toList 1 "//*b".toList := by
  intro lexer other
  have hitem : lexer.next.item = some (.ok ⟨.comment, "/*/**/", ⟨⟨1, 3⟩, ⟨1, 9⟩⟩⟩) := by
    with_unfolding_all rfl
  have hstart : lexer.skipBlank.cursor.offset = 2 := by with_unfolding_all rfl
  have hopen : ¬ lexer.next.Ends := by simp [Lexer.Step.Ends, hitem]
  have hitem' : other.next.item = some (.ok ⟨.comment, "//*b", ⟨⟨1, 2⟩, ⟨1, 6⟩⟩⟩) := by
    with_unfolding_all rfl
  have hstart' : other.skipBlank.cursor.offset = 1 := by with_unfolding_all rfl
  have hopen' : ¬ other.next.Ends := by simp [Lexer.Step.Ends, hitem']
  have hextent := comment_extent default "x /*/**/*/" 1
  have hextent' := comment_extent default "a//*b\nc" 1
  simp only at hextent hextent'
  rw [hstart] at hextent
  rw [hstart'] at hextent'
  have hbegins : ['/', '*'] <+: "x /*/**/*/".toList.drop 2 := ⟨"/**/*/".toList, rfl⟩
  have hbegins' : ['/', '/'] <+: "a//*b\nc".toList.drop 1 := ⟨"*b\nc".toList, rfl⟩
  refine ⟨?_, hopen', hstart', (hextent' hopen').2 hbegins'⟩
  rcases (hextent hopen).1 hbegins with ⟨comment, hfirst, htaken⟩ | ⟨hnone, -⟩
  · -- What is taken has the text of the item.
    have hcomment : comment = "/*/**/".toList := by
      have htold := hitem.symm.trans htaken.item_eq
      simp only at htold
      split at htold
      · cases htold
      · obtain ⟨-, htext, -⟩ := Token.mk.inj (Except.ok.inj (Option.some.inj htold))
        rw [htext, String.toList_ofList]
    rw [← hcomment]
    exact ⟨hopen, hstart, hfirst, htaken⟩
  · exact absurd ⟨⟨"/*/*".toList, rfl⟩, by decide⟩ (hnone "/*/**/".toList ⟨"*/".toList, rfl⟩)

end VinylSyntax
