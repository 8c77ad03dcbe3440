import Mathlib.Data.String.Basic
import VinylSyntax.SourceLines

/-!
# Excerpts with all checks

`SourceLines.excerptChecked` renders a message about a span by way of offsets in bytes, with every
subtraction checked and every cut of the text at the boundary of a character. If the column of the
span is counted from one, no check fails, and the outcome is that of `SourceLines.excerpt`.
-/

namespace VinylSyntax

/-- A difference, which may not be negative. -/
def subtractChecked (a b : Nat) : Except Fault Nat :=
  if b ≤ a then .ok (a - b) else .error .subtractionOverflow

/-- A number is subtracted from one that is no smaller without a fault. -/
theorem subtractChecked_of_le {a b : Nat} (h : b ≤ a) : subtractChecked a b = .ok (a - b) :=
  if_pos h

/-! ## Texts in bytes -/

/-- Cuts a text behind a number of bytes, which must be the end of a character. -/
def cutChecked (bytes : Nat) : List Char → Except Fault (List Char × List Char)
  | [] => if bytes = 0 then .ok ([], []) else .error .splitCharacter
  | char :: rest =>
    if bytes = 0 then .ok ([], char :: rest)
    else if bytes < char.utf8Size then .error .splitCharacter
    else (cutChecked (bytes - char.utf8Size) rest).map fun (front, back) => (char :: front, back)

/-- The characters from one offset in bytes up to another. -/
def sliceChecked (start stop : Nat) (text : List Char) : Except Fault (List Char) := do
  let (upTo, _) ← cutChecked stop text
  let (_, slice) ← cutChecked start upTo
  return slice

/-- A text is cut without a fault behind as many bytes as its front has. -/
theorem cutChecked_append (front back : List Char) :
    cutChecked (String.utf8Len front) (front ++ back) = .ok (front, back) := by
  induction front with
  | nil => cases back <;> simp [cutChecked]
  | cons char front ih =>
    have hpositive := char.utf8Size_pos
    rw [List.cons_append, cutChecked, String.utf8Len_cons, if_neg (by omega), if_neg (by omega),
      Nat.add_sub_cancel, ih]
    rfl

/-- The bytes of the middle part of a text are cut out of it without a fault. -/
theorem sliceChecked_append (front middle back : List Char) :
    sliceChecked (String.utf8Len front) (String.utf8Len front + String.utf8Len middle)
      (front ++ (middle ++ back)) = .ok middle := by
  rw [sliceChecked, ← String.utf8Len_append, ← List.append_assoc, cutChecked_append]
  show (do let (_, slice) ← cutChecked (String.utf8Len front) (front ++ middle); return slice) = _
  rw [cutChecked_append]
  rfl

/-! ## Lines in bytes -/

namespace SourceLines

/-- The offsets in bytes behind the newlines of a text that begins at an offset. -/
def lineStartsFrom (offset : Nat) : List Char → List Nat
  | [] => []
  | char :: rest =>
    if char = '\n' then (offset + 1) :: lineStartsFrom (offset + 1) rest
    else lineStartsFrom (offset + char.utf8Size) rest

/-- The offsets in bytes at which lines begin. -/
def lineStarts (lines : SourceLines) : List Nat := 0 :: lineStartsFrom 0 lines.chars

/-- The line of a number, counted from one, which is cut out of the text by its offsets. -/
def lineChecked (lines : SourceLines) (number : Nat) : Except Fault (Option (List Char)) :=
  match number with
  | 0 => .ok none
  | index + 1 =>
    match lines.lineStarts[index]? with
    | none => .ok none
    | some start => do
      let stop ← match lines.lineStarts[index + 1]? with
        | some next => subtractChecked next 1
        | none => .ok (String.utf8Len lines.chars)
      return some (trim (← sliceChecked start stop lines.chars))

/-- The line that a span begins on, below an empty gutter and above an underline behind `offset`
blanks. -/
def drawn (number : Nat) (line : List Char) (offset width : Nat) : String :=
  let number := toString number
  let gutter := blanks number.length
  let carets := String.ofList (List.replicate (max width 1) '^')
  gutter ++ " |\n" ++ number ++ " | " ++ String.ofList line ++ "\n" ++ gutter ++ " | " ++
    blanks offset ++ carets ++ "\n"

/-- The number of characters to be underlined behind `offset` others. -/
def widthChecked (length offset : Nat) (span : Span) : Except Fault Nat :=
  if span.start.line = span.stop.line then .ok (span.stop.column - span.start.column)
  else subtractChecked length offset

/-- The line that a span begins on, with the span underlined. -/
def underlinedChecked (line : List Char) (span : Span) : Except Fault String := do
  let column ← subtractChecked span.start.column 1
  let offset := min column line.length
  let width ← widthChecked line.length offset span
  return drawn span.start.line line offset width

/-- The text that reports a message about a span, with every operation checked. -/
def excerptChecked (lines : SourceLines) (span : Span) (message : String) :
    Except Fault String := do
  let heading := "Error: " ++ message ++ "\n  --> " ++ span.start.render ++ "\n"
  match ← lines.lineChecked span.start.line with
  | none => return heading
  | some line => return heading ++ (← underlinedChecked line span)

/-- The next line begins behind the newline that ends a line, if there is one. -/
theorem lineStartsFrom_eq (offset : Nat) (text : List Char) :
    lineStartsFrom offset text =
      match text.dropWhile (· ≠ '\n') with
      | [] => []
      | _ :: rest =>
        let next := offset + String.utf8Len (text.takeWhile (· ≠ '\n')) + 1
        next :: lineStartsFrom next rest := by
  induction text generalizing offset with
  | nil => rfl
  | cons char text ih =>
    rw [lineStartsFrom]
    by_cases hnewline : char = '\n'
    · simp [hnewline]
    · simp [hnewline, ih, Nat.add_assoc, Nat.add_comm char.utf8Size]

/-- A line that does not end the text ends at a newline. -/
theorem eq_takeWhile_append {text rest : List Char} {newline : Char}
    (h : text.dropWhile (· ≠ '\n') = newline :: rest) :
    text = text.takeWhile (· ≠ '\n') ++ '\n' :: rest := by
  have hhead := List.head?_dropWhile_not (· ≠ '\n') text
  rw [h] at hhead
  obtain rfl : newline = '\n' := by simpa using hhead
  rw [← h]
  exact List.takeWhile_append_dropWhile.symm

/-- The offsets from the beginning of a line on. -/
theorem drop_lineStartsFrom (offset : Nat) (text : List Char) (index : Nat) :
    match behindNewlines index text with
    | none => (offset :: lineStartsFrom offset text).drop index = []
    | some rest => ∃ front, text = front ++ rest ∧
      (offset :: lineStartsFrom offset text).drop index =
        (offset + String.utf8Len front) :: lineStartsFrom (offset + String.utf8Len front) rest := by
  induction index generalizing offset text with
  | zero => exact ⟨[], rfl, by simp⟩
  | succ index ih =>
    rw [behindNewlines, List.drop_succ_cons, lineStartsFrom_eq]
    cases hrest : text.dropWhile (· ≠ '\n') with
    | nil => simp
    | cons newline rest =>
      have htext := eq_takeWhile_append hrest
      have h := ih (offset + String.utf8Len (text.takeWhile (· ≠ '\n')) + 1) rest
      show match behindNewlines index rest with
        | none => _
        | some last => _
      split at h
      · exact h
      · next last _ =>
        obtain ⟨front, hfront, hdrop⟩ := h
        refine ⟨text.takeWhile (· ≠ '\n') ++ '\n' :: front, ?_, ?_⟩
        · rw [List.append_assoc, List.cons_append, ← hfront]
          exact htext
        · have hnewline : Char.utf8Size '\n' = 1 := rfl
          rw [String.utf8Len_append, String.utf8Len_cons, hnewline,
            Nat.add_comm (String.utf8Len front), ← Nat.add_assoc, ← Nat.add_assoc]
          exact hdrop

/-- Cutting a line out by its offsets gives the line, and never cuts through a character. -/
theorem lineChecked_eq (lines : SourceLines) (number : Nat) :
    lines.lineChecked number = .ok (lines.line? number) := by
  cases number with
  | zero => rfl
  | succ index =>
    have h := drop_lineStartsFrom 0 lines.chars index
    have hstart : lines.lineStarts[index]? = (lines.lineStarts.drop index)[0]? := by simp
    have hnext : lines.lineStarts[index + 1]? = (lines.lineStarts.drop index)[1]? := by simp
    rw [lineChecked, line?, if_neg (Nat.succ_ne_zero index), Nat.add_sub_cancel, hstart, hnext,
      lineStarts]
    split at h
    · next hnone =>
      rw [hnone, h]
      rfl
    · next rest hsome =>
      obtain ⟨front, hchars, hdrop⟩ := h
      rw [hsome, hdrop, hchars, Nat.zero_add, lineStartsFrom_eq]
      cases hline : rest.dropWhile (· ≠ '\n') with
      | nil =>
        -- The last line ends with the text.
        have hrest := @List.takeWhile_append_dropWhile _ (· ≠ '\n') rest
        rw [hline, List.append_nil] at hrest
        have hslice := sliceChecked_append front rest []
        rw [List.append_nil] at hslice
        rw [Option.map_some, hrest]
        simp [hslice, bind, Except.bind, pure, Except.pure]
      | cons newline more =>
        have hslice := sliceChecked_append front (rest.takeWhile (· ≠ '\n')) ('\n' :: more)
        rw [← eq_takeWhile_append hline] at hslice
        rw [Option.map_some]
        generalize rest.takeWhile (· ≠ '\n') = shown at hslice ⊢
        simp [hslice, subtractChecked, bind, Except.bind, pure, Except.pure]

/-- The underline begins no further than the line ends, so that it has a width. -/
theorem widthChecked_indent (length : Nat) (span : Span) :
    widthChecked length (indent length span) span = .ok (width length span) := by
  unfold widthChecked width
  split
  · rfl
  · exact subtractChecked_of_le (Nat.min_le_right _ _)

/-- Columns that are counted from one are underlined without a fault, as they are without checks. -/
theorem underlinedChecked_eq (line : List Char) {span : Span} (hcolumn : 1 ≤ span.start.column) :
    underlinedChecked line span = .ok (underlined line span) := by
  have hwidth := widthChecked_indent line.length span
  rw [indent] at hwidth
  simp only [underlinedChecked, subtractChecked_of_le hcolumn, hwidth, bind, Except.bind]
  rfl

/-- A span whose column is counted from one is rendered without a fault. -/
theorem excerptChecked_eq (lines : SourceLines) {span : Span} (hcolumn : 1 ≤ span.start.column)
    (message : String) :
    ∃ text, lines.excerptChecked span message = .ok text ∧
      lines.excerpt span message = .ok text := by
  simp only [excerptChecked, excerpt, lineChecked_eq, bind, Except.bind]
  cases lines.line? span.start.line with
  | none => exact ⟨_, rfl, rfl⟩
  | some line =>
    simp only [underlinedChecked_eq line hcolumn, if_neg (show span.start.column ≠ 0 by omega)]
    exact ⟨_, rfl, rfl⟩

end SourceLines

end VinylSyntax
