import VinylSyntax.Location

/-!
# Lines of a source

The lines of a text are the pieces between its newlines, shown without the carriage returns at their
ends. `SourceLines.excerpt` shows the line that a span begins on and underlines the span in it.
-/

namespace VinylSyntax

/-- A text seen as lines. -/
structure SourceLines where
  chars : List Char
deriving DecidableEq, Inhabited

namespace SourceLines

/-- The lines of a text. -/
def ofString (source : String) : SourceLines := ⟨source.toList⟩

/-- The number of lines: one more than there are newlines. -/
def count (lines : SourceLines) : Nat := lines.chars.count '\n' + 1

/-- What is left of a text behind a number of newlines, if there are so many. -/
def behindNewlines : Nat → List Char → Option (List Char)
  | 0, text => some text
  | newlines + 1, text =>
    match text.dropWhile (· ≠ '\n') with
    | [] => none
    | _ :: rest => behindNewlines newlines rest

/-- A line without the carriage returns at its end. -/
def trim (line : List Char) : List Char :=
  (line.reverse.dropWhile (· = '\r')).reverse

/-- The line of a number, counted from one. -/
def line? (lines : SourceLines) (number : Nat) : Option (List Char) :=
  if number = 0 then none
  else (behindNewlines (number - 1) lines.chars).map fun text => trim (text.takeWhile (· ≠ '\n'))

/-- A run of blanks. -/
def blanks (count : Nat) : String := String.ofList (List.replicate count ' ')

/-- The number of characters in front of a span in the line that it begins on, no more than the line
has. -/
def indent (length : Nat) (span : Span) : Nat := min (span.start.column - 1) length

/-- The number of characters of a span to be underlined in the line that it begins on, the rest of
the line if it does not end there. -/
def width (length : Nat) (span : Span) : Nat :=
  if span.start.line = span.stop.line then span.stop.column - span.start.column
  else length - indent length span

/-- The line that a span begins on, below an empty gutter and above the underline, which has at
least one caret. -/
def underlined (line : List Char) (span : Span) : String :=
  let number := toString span.start.line
  let gutter := blanks number.length
  let carets := String.ofList (List.replicate (max (width line.length span) 1) '^')
  gutter ++ " |\n" ++ number ++ " | " ++ String.ofList line ++ "\n" ++ gutter ++ " | " ++
    blanks (indent line.length span) ++ carets ++ "\n"

/-- The text that reports a message about a span: the message, the place and, if the text has it,
the line with the span underlined. The column of the span is counted from one. -/
def excerpt (lines : SourceLines) (span : Span) (message : String) : Except Fault String :=
  let heading := "Error: " ++ message ++ "\n  --> " ++ span.start.render ++ "\n"
  match lines.line? span.start.line with
  | none => .ok heading
  | some line =>
    if span.start.column = 0 then .error .subtractionOverflow
    else .ok (heading ++ underlined line span)

end SourceLines

end VinylSyntax
