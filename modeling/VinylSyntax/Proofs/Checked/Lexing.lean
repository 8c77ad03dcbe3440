import Mathlib.Data.List.TakeWhile
import VinylSyntax.Lexer.Lookahead
import VinylSyntax.Proofs.Coverage

/-!
# Lexing with all checks

`Lexer.nextChecked` is the step of a lexer whose counters of lines and columns must hold every
location on the way, and whose spans may not be reversed. A lexer that has room for its text
(`Lexer.Roomy`) takes every such step without a fault, and still has room behind it; on a line of
white space there is a fault if it has not (`Lexer.runChecked_blank_iff`). What a check lets through
is what is computed without it, so a checked run ends as the plain one does.
-/

namespace VinylSyntax

/-- A checked value is the plain one, if the check lets it through. -/
def LetsThrough {α : Type} (checked : Except Fault α) (plain : α) : Prop :=
  ∀ value, checked = .ok value → value = plain

/-- A value that nothing is checked about is let through. -/
theorem LetsThrough.ok {α : Type} (value : α) : LetsThrough (.ok value) value :=
  fun _ h => (Except.ok.inj h).symm

/-- Checks behind one another let through what each of them does. -/
theorem LetsThrough.bind {α β : Type} {checked : Except Fault α} {plain : α}
    {next : α → Except Fault β} {result : β} (h : LetsThrough checked plain)
    (hnext : LetsThrough (next plain) result) : LetsThrough (checked >>= next) result := by
  intro value hvalue
  cases hchecked : checked with
  | error fault =>
    rw [hchecked] at hvalue
    cases hvalue
  | ok middle =>
    rw [hchecked, h middle hchecked] at hvalue
    exact hnext value hvalue

/-- A test lets its value through, or faults. -/
theorem LetsThrough.ite {α : Type} {test : Prop} [Decidable test] {fault : Fault} (value : α) :
    LetsThrough (if test then .ok value else .error fault) value := by
  intro other hother
  split at hother
  · exact (Except.ok.inj hother).symm
  · cases hother

/-! ## Counters -/

namespace Location

/-- The counters can hold the locations in a text of a length that begins at the location. -/
structure Room (location : Location) (length : Nat) : Prop where
  line_pos : 1 ≤ location.line
  column_pos : 1 ≤ location.column
  fits : location.line + location.column + length ≤ counterRange

/-- Where there is room for a character, there is room behind it for the others. -/
theorem Room.advance {location : Location} {length : Nat} (h : location.Room (length + 1))
    (char : Char) : (location.advance char).Room length := by
  obtain ⟨hline, hcolumn, hfits⟩ := h
  unfold Location.advance
  split
  · exact ⟨by simp, by simp, by simp; omega⟩
  · exact ⟨by simpa, by simp, by simp; omega⟩

/-- A character that there is room for is passed without a fault. -/
theorem Room.advanceChecked {location : Location} {length : Nat} (h : location.Room (length + 1))
    (char : Char) : location.advanceChecked char = .ok (location.advance char) := by
  obtain ⟨hline, hcolumn, hfits⟩ := h.advance char
  exact if_pos ⟨by omega, by omega⟩

/-- A text that the counters have room for is passed without a fault, and there is room for what
follows. -/
theorem Room.advanceOverChecked {location : Location} {text : List Char} {length : Nat}
    (h : location.Room (text.length + length)) :
    location.advanceOverChecked text = .ok (location.advanceOver text) ∧
      (location.advanceOver text).Room length := by
  induction text generalizing location with
  | nil => exact ⟨rfl, by simpa using h⟩
  | cons char text ih =>
    have h' : location.Room ((text.length + length) + 1) := by
      rw [List.length_cons] at h
      exact ⟨h.line_pos, h.column_pos, by have := h.fits; omega⟩
    obtain ⟨hrest, hroom⟩ := ih (h'.advance char)
    refine ⟨?_, hroom⟩
    show (do let next ← location.advanceChecked char; next.advanceOverChecked text) = _
    rw [h'.advanceChecked char]
    exact hrest

/-- A line that goes further than the counter of columns does not fit. -/
theorem advanceOverChecked_overflow {location : Location} {text : List Char}
    (hfits : location.Fits) (hline : '\n' ∉ text)
    (hlong : counterRange ≤ location.column + text.length) :
    location.advanceOverChecked text = .error .additionOverflow := by
  induction text generalizing location with
  | nil =>
    have hcolumn := hfits.2
    rw [List.length_nil] at hlong
    omega
  | cons char text ih =>
    rw [List.mem_cons, not_or] at hline
    have hnext : location.advance char = ⟨location.line, location.column + 1⟩ :=
      if_neg (Ne.symm hline.1)
    show (do let next ← location.advanceChecked char; next.advanceOverChecked text) = _
    rw [advanceChecked, hnext]
    by_cases hfits' : Fits ⟨location.line, location.column + 1⟩
    · have hlong' : counterRange ≤ location.column + 1 + text.length := by
        rw [List.length_cons] at hlong
        omega
      rw [if_pos hfits']
      exact ih hfits' hline.2 hlong'
    · rw [if_neg hfits']
      rfl

/-- A text that is passed with all checks leads to where it leads without them. -/
theorem advanceOverChecked_letsThrough (location : Location) (text : List Char) :
    LetsThrough (location.advanceOverChecked text) (location.advanceOver text) := by
  induction text generalizing location with
  | nil => exact .ok location
  | cons char text ih => exact LetsThrough.bind (.ite _) (ih _)

end Location

/-- The place behind the characters `taken`, in counters that must hold every location on the
way. -/
def Cursor.pastChecked (cursor : Cursor) (taken rest : List Char) : Except Fault Cursor := do
  let location ← cursor.location.advanceOverChecked taken
  return ⟨rest, cursor.offset + taken.length, location⟩

namespace Lexer

/-! ## Steps -/

/-- The lexer behind all white space in front of it. -/
def skipBlankChecked (lexer : Lexer) : Except Fault Lexer := do
  let (taken, rest) := splitWhere (fun _ char _ => !isBlank char) [] lexer.cursor.rest
  return { lexer with cursor := ← lexer.cursor.pastChecked taken rest }

/-- The step over the lexeme that begins with a character. -/
def lexChecked (lexer : Lexer) (first : Char) (rest : List Char) : Except Fault Step := do
  let cut := Lexeme.split first rest
  let behind := { lexer with cursor := ← lexer.cursor.pastChecked cut.1.text cut.2 }
  let span ← Span.between lexer.location behind.location
  return behind.settle (cut.1.token span)

/-- Gives the next item, with every operation on locations checked. -/
def nextChecked (lexer : Lexer) : Except Fault Step :=
  if lexer.finished then .ok ⟨none, [], lexer⟩
  else do
    let lexer ← lexer.skipBlankChecked
    match lexer.cursor.rest with
    | [] => return lexer.finish
    | first :: rest =>
      if Limits.tokenCount ≤ lexer.metrics.tokens then return lexer.refuse
      else lexer.lexChecked first rest

/-- The counters of a lexer have room for what is left of its text. -/
def Roomy (lexer : Lexer) : Prop := lexer.location.Room lexer.cursor.rest.length

/-- What there is room for is passed without a fault, and there is room for what follows. -/
theorem pastChecked_eq {cursor : Cursor} {taken rest : List Char}
    (h : cursor.location.Room (taken.length + rest.length)) :
    cursor.pastChecked taken rest = .ok (cursor.past taken rest) ∧
      (cursor.past taken rest).location.Room rest.length := by
  obtain ⟨hchecked, hroom⟩ := h.advanceOverChecked
  refine ⟨?_, hroom⟩
  rw [Cursor.pastChecked, hchecked]
  rfl

/-- A cursor that passes a text with all checks is where it is without them. -/
theorem pastChecked_letsThrough (cursor : Cursor) (taken rest : List Char) :
    LetsThrough (cursor.pastChecked taken rest) (cursor.past taken rest) :=
  (Location.advanceOverChecked_letsThrough cursor.location taken).bind (.ok _)

/-- White space that is skipped with all checks leads to where it leads without them. -/
theorem skipBlankChecked_letsThrough (lexer : Lexer) :
    LetsThrough lexer.skipBlankChecked lexer.skipBlank :=
  (pastChecked_letsThrough _ _ _).bind (.ok _)

/-- A step over a lexeme with all checks is the step without them. -/
theorem lexChecked_letsThrough (lexer : Lexer) (first : Char) (rest : List Char) :
    LetsThrough (lexer.lexChecked first rest) (lexer.lex first rest) :=
  (pastChecked_letsThrough _ _ _).bind ((LetsThrough.ite _).bind (.ok _))

/-- What the checks let through is the plain step. -/
theorem nextChecked_letsThrough (lexer : Lexer) : LetsThrough lexer.nextChecked lexer.next := by
  unfold nextChecked next
  cases lexer.finished with
  | true => exact .ok _
  | false =>
    refine lexer.skipBlankChecked_letsThrough.bind ?_
    simp only [Bool.false_eq_true, if_false]
    cases lexer.skipBlank.cursor.rest with
    | nil => exact .ok _
    | cons first rest =>
      simp only
      split
      · exact .ok _
      · exact lexChecked_letsThrough _ first rest

/-- A lexer that has room skips white space without a fault, and still has room. -/
theorem skipBlankChecked_eq {lexer : Lexer} (h : lexer.Roomy) :
    lexer.skipBlankChecked = .ok lexer.skipBlank ∧ lexer.skipBlank.Roomy := by
  have happend := splitWhere_append (fun _ char _ => !isBlank char) [] lexer.cursor.rest
  have hlength := congrArg List.length happend
  rw [List.reverse_nil, List.nil_append, List.length_append] at hlength
  rw [Roomy, ← hlength] at h
  obtain ⟨hchecked, hroom⟩ := pastChecked_eq h
  exact ⟨by simp only [skipBlankChecked, hchecked]; rfl, hroom⟩

/-- A lexer that has room passes a lexeme without a fault, and still has room. -/
theorem lexChecked_eq {lexer : Lexer} {first : Char} {rest : List Char} (h : lexer.Roomy)
    (hrest : lexer.cursor.rest = first :: rest) :
    lexer.lexChecked first rest = .ok (lexer.lex first rest) ∧
      (lexer.lex first rest).lexer.Roomy := by
  have hlength := congrArg List.length (Lexeme.text_append_rest first rest)
  rw [List.length_append] at hlength
  rw [Roomy, hrest, ← hlength] at h
  obtain ⟨hchecked, hroom⟩ := pastChecked_eq h
  have hspan := Location.le_advanceOver lexer.location (Lexeme.split first rest).1.text
  constructor
  · simp only [lexChecked, hchecked]
    show (do
      let span ← Span.between lexer.location
        (lexer.location.advanceOver (Lexeme.split first rest).1.text)
      return Lexer.settle _ (Lexeme.token _ span)) = _
    rw [Span.between, if_pos hspan]
    rfl
  · rw [Roomy, location, lex, cursor_settle]
    exact hroom

/-- A lexer that has room gives its next item without a fault, and still has room. -/
theorem nextChecked_eq {lexer : Lexer} (h : lexer.Roomy) :
    lexer.nextChecked = .ok lexer.next ∧ lexer.next.lexer.Roomy := by
  obtain ⟨hskip, hroom⟩ := skipBlankChecked_eq h
  unfold nextChecked next
  cases lexer.finished with
  | true => exact ⟨rfl, h⟩
  | false =>
    simp only [hskip, Bool.false_eq_true, if_false, bind, Except.bind]
    cases hrest : lexer.skipBlank.cursor.rest with
    | nil => exact ⟨rfl, hroom⟩
    | cons first rest =>
      simp only
      split
      · exact ⟨rfl, hroom⟩
      · exact lexChecked_eq hroom hrest

/-- A text of a source that is short enough has room from its beginning on. -/
theorem roomy_ofString (preferences : LexicalPreferences) {source : String}
    (h : source.length + 2 ≤ Location.counterRange) : (ofString preferences source).Roomy := by
  refine ⟨Nat.le_refl _, Nat.le_refl _, ?_⟩
  show 1 + 1 + source.toList.length ≤ Location.counterRange
  rw [String.length_toList]
  omega

end Lexer

/-! ## Items -/

/-- What an item is about begins at a column that is counted from one. -/
def Item.Placed (item : Item) : Prop := 1 ≤ (Item.span item).start.column

namespace Lexer

/-- What the items of a lexer that has room are about begins at columns counted from one. -/
theorem placed_of_next {lexer : Lexer} {item : Item} (h : lexer.Roomy)
    (hitem : lexer.next.item = some item) : item.Placed := by
  have hcolumn := (skipBlankChecked_eq h).2.column_pos
  unfold next at hitem
  cases hfinished : lexer.finished with
  | true => simp [hfinished] at hitem
  | false =>
    simp only [hfinished, Bool.false_eq_true, if_false] at hitem
    cases hrest : lexer.skipBlank.cursor.rest with
    | nil => simp [hrest, finish] at hitem
    | cons first rest =>
      rw [hrest] at hitem
      simp only at hitem
      split at hitem
      · obtain rfl := Option.some.inj hitem
        exact hcolumn
      · rw [lex, item_settle] at hitem
        obtain rfl := Option.some.inj hitem
        rw [Item.Placed, (Lexeme.token_accounts (Lexeme.split first rest).1 _
          (Lexeme.split first rest).2 fun _ => Lexeme.split_openComment).2]
        exact hcolumn

/-! ## Runs -/

/-- Runs a lexer to its end with all checks; `items` and `events` came before, latest first. -/
def runCheckedFrom (items : List Item) (events : List Event) (lexer : Lexer) : Except Fault Run :=
  match hstep : lexer.nextChecked with
  | .error fault => .error fault
  | .ok step =>
    let events := step.events.reverse ++ events
    match hitem : step.item with
    | none => .ok ⟨items.reverse, events.reverse, step.lexer⟩
    | some item =>
      have : step.lexer.remaining < lexer.remaining := by
        obtain rfl := lexer.nextChecked_letsThrough step hstep
        exact lexer.remaining_next_lt (Option.isSome_of_mem hitem)
      runCheckedFrom (item :: items) events step.lexer
termination_by lexer.remaining

/-- Runs a lexer to its end with all checks, going on after errors. -/
def runChecked (lexer : Lexer) : Except Fault Run := runCheckedFrom [] [] lexer

/-- A checked run ends with the step that gives nothing. -/
theorem runCheckedFrom_of_none {lexer : Lexer} (items : List Item) (events : List Event)
    (h : lexer.nextChecked = .ok lexer.next) (hitem : lexer.next.item = none) :
    runCheckedFrom items events lexer =
      .ok ⟨items.reverse, (lexer.next.events.reverse ++ events).reverse, lexer.next.lexer⟩ := by
  rw [runCheckedFrom]
  split
  · simp_all
  · next step hstep =>
    obtain rfl : lexer.next = step := by simpa [h] using hstep
    dsimp only
    split <;> simp_all

/-- A checked run goes on behind a step that gives an item. -/
theorem runCheckedFrom_of_item {lexer : Lexer} {item : Item} (items : List Item)
    (events : List Event) (h : lexer.nextChecked = .ok lexer.next)
    (hitem : lexer.next.item = some item) :
    runCheckedFrom items events lexer =
      runCheckedFrom (item :: items) (lexer.next.events.reverse ++ events) lexer.next.lexer := by
  rw [runCheckedFrom]
  split
  · simp_all
  · next step hstep =>
    obtain rfl : lexer.next = step := by simpa [h] using hstep
    dsimp only
    split <;> simp_all

/-- Where a lexer has room, a checked run goes on as the plain one does. -/
theorem runCheckedFrom_eq {lexer : Lexer} (items : List Item) (events : List Event)
    (h : lexer.Roomy) : runCheckedFrom items events lexer = .ok (runFrom items events lexer) := by
  induction hremaining : lexer.remaining using Nat.strongRecOn generalizing lexer items events with
  | ind _ ih =>
    obtain ⟨hnext, hroom⟩ := nextChecked_eq h
    cases hitem : lexer.next.item with
    | none =>
      rw [runCheckedFrom_of_none items events hnext hitem, runFrom_of_none items events hitem]
    | some item =>
      have hlt := lexer.remaining_next_lt (by simp [hitem])
      rw [runCheckedFrom_of_item items events hnext hitem, runFrom_of_item items events hitem]
      exact ih _ (by omega) _ _ hroom rfl

/-- A lexer that has room is run to its end without a fault. -/
theorem runChecked_eq {lexer : Lexer} (h : lexer.Roomy) : lexer.runChecked = .ok lexer.run :=
  runCheckedFrom_eq [] [] h

/-- White space on a line that is too long for the counter of columns ends in a fault. -/
theorem runChecked_overflow (preferences : LexicalPreferences) {source : String}
    (hblank : ∀ char ∈ source.toList, isBlank char = true) (hline : '\n' ∉ source.toList)
    (hlong : Location.counterRange < source.length + 2) :
    (ofString preferences source).runChecked = .error .additionOverflow := by
  have hsplit : splitWhere (fun _ char _ => !isBlank char) [] source.toList =
      (source.toList, []) := by
    rw [splitWhere_eq_takeWhile, List.reverse_nil, List.nil_append]
    refine Prod.ext (List.takeWhile_eq_self_iff.2 ?_) (List.dropWhile_eq_nil_iff.2 ?_) <;>
      simpa using hblank
  have hover : Location.start.advanceOverChecked source.toList = .error .additionOverflow := by
    refine Location.advanceOverChecked_overflow (by decide) hline ?_
    rw [String.length_toList]
    show Location.counterRange ≤ 1 + source.length
    omega
  have hpast :
      (Cursor.ofString source).pastChecked source.toList [] = .error .additionOverflow := by
    show (do let location ← Location.start.advanceOverChecked source.toList; _) = _
    rw [hover]
    rfl
  have hskip : (ofString preferences source).skipBlankChecked = .error .additionOverflow := by
    have hcursor : (ofString preferences source).cursor = .ofString source := rfl
    have hrest : (Cursor.ofString source).rest = source.toList := rfl
    simp only [skipBlankChecked, hcursor, hrest, hsplit, hpast, bind, Except.bind]
  have hnext : (ofString preferences source).nextChecked = .error .additionOverflow := by
    have hfinished : (ofString preferences source).finished = false := rfl
    simp only [nextChecked, hfinished, hskip, bind, Except.bind, Bool.false_eq_true, if_false]
  rw [runChecked, runCheckedFrom]
  split <;> simp_all

/-- A line of white space is run to its end without a fault just if the counters have room for
it. -/
theorem runChecked_blank_iff (preferences : LexicalPreferences) {source : String}
    (hblank : ∀ char ∈ source.toList, isBlank char = true) (hline : '\n' ∉ source.toList) :
    (∃ run, (ofString preferences source).runChecked = .ok run) ↔
      source.length + 2 ≤ Location.counterRange := by
  constructor
  · rintro ⟨run, hrun⟩
    refine Nat.le_of_not_lt fun hlong => ?_
    rw [runChecked_overflow preferences hblank hline hlong] at hrun
    cases hrun
  · intro hshort
    exact ⟨_, runChecked_eq (roomy_ofString preferences hshort)⟩

/-- What the items of a run are about begins at columns counted from one. -/
theorem placed_of_run {lexer : Lexer} (h : lexer.Roomy) :
    ∀ item ∈ lexer.run.items, item.Placed := by
  induction hremaining : lexer.remaining using Nat.strongRecOn generalizing lexer with
  | ind _ ih =>
    cases hitem : lexer.next.item with
    | none => simp [items_run_of_none hitem]
    | some item =>
      have hlt := lexer.remaining_next_lt (by simp [hitem])
      rw [items_run_of_item hitem, List.forall_mem_cons]
      exact ⟨placed_of_next h hitem, ih _ (by omega) (nextChecked_eq h).2 rfl⟩

end Lexer

end VinylSyntax
