import Mathlib.Data.List.DropRight
import VinylSyntax.Proofs.Diagnoses
import VinylSyntax.Proofs.Displacement
import VinylSyntax.Proofs.Reading.Resuming

/-!
# Lines and locations

The lines of a text are cut out by the offsets in bytes at which they begin, while a lexer counts
newlines and characters as it goes. The two agree: what a lexer has read since the last newline is
the beginning of the line whose number it gives (`SourceLines.line?_advanceOver`). So every token
other than a comment is found in its line at its columns, and every error has a line.
-/

namespace VinylSyntax

namespace SourceLines

/-! ## Lines as pieces -/

/-- A line begins at the beginning of the text, and behind every newline. -/
theorem length_lineStartsFrom (offset : Nat) (text : List Char) :
    (lineStartsFrom offset text).length = text.count '\n' := by
  induction text generalizing offset with
  | nil => rfl
  | cons char text ih =>
    rw [lineStartsFrom]
    by_cases hnewline : char = '\n'
    · simp [hnewline, ih]
    · simp [hnewline, ih]

/-- There are as many beginnings of lines as lines. -/
theorem length_lineStarts (lines : SourceLines) : lines.lineStarts.length = lines.count := by
  rw [lineStarts, List.length_cons, length_lineStartsFrom, count]

/-- The characters of a text without a newline are none. -/
theorem ne_newline_of_notMem {text : List Char} (h : '\n' ∉ text) :
    ∀ char ∈ text, decide (char ≠ '\n') = true := fun char hchar => by
  simpa using ne_of_mem_of_not_mem hchar h

/-- The first piece of a text goes on to its first newline, and the others are those of what stands
behind that. -/
theorem splitOn_newline (text : List Char) :
    text.splitOn '\n' = text.takeWhile (· ≠ '\n') ::
      match text.dropWhile (· ≠ '\n') with
      | [] => []
      | _ :: rest => rest.splitOn '\n' := by
  have hline : '\n' ∉ text.takeWhile (· ≠ '\n') := by
    intro hmem
    have hchar := List.all_eq_true.1 List.all_takeWhile _ hmem
    simp at hchar
  cases hrest : text.dropWhile (· ≠ '\n') with
  | nil =>
    have htext := @List.takeWhile_append_dropWhile _ (· ≠ '\n') text
    rw [hrest, List.append_nil] at htext
    rw [htext] at hline ⊢
    exact List.splitOn_eq_singleton hline
  | cons newline rest =>
    have htext := eq_takeWhile_append hrest
    generalize text.takeWhile (· ≠ '\n') = line at hline htext ⊢
    rw [htext]
    exact List.splitOnP_append_cons_of_forall_mem
      (fun char hchar => by simpa using ne_of_mem_of_not_mem hchar hline) '\n' rfl rest

/-- A piece between newlines is what stands behind as many newlines, up to the next one. -/
theorem getElem?_splitOn (index : Nat) (text : List Char) :
    (text.splitOn '\n')[index]? =
      (behindNewlines index text).map (·.takeWhile (· ≠ '\n')) := by
  induction index generalizing text with
  | zero =>
    rw [splitOn_newline]
    rfl
  | succ index ih =>
    rw [splitOn_newline, behindNewlines, List.getElem?_cons_succ]
    cases text.dropWhile (· ≠ '\n') with
    | nil => rfl
    | cons newline rest => exact ih rest

/-- A line is the piece between newlines at its place, without the carriage returns at its end. -/
theorem line?_eq_splitOn (lines : SourceLines) {number : Nat} (h : 1 ≤ number) :
    lines.line? number = ((lines.chars.splitOn '\n')[number - 1]?).map trim := by
  rw [line?, if_neg (by omega), getElem?_splitOn, Option.map_map]
  rfl

/-- There is one piece more than there are newlines. -/
theorem length_splitOn (text : List Char) :
    (text.splitOn '\n').length = text.count '\n' + 1 := by
  induction text with
  | nil => rfl
  | cons char text ih =>
    rw [List.splitOn] at ih ⊢
    rw [List.splitOnP_cons_eq_if_modifyHead, List.count_cons]
    split
    · rw [List.length_cons, ih]
    · rw [List.length_modifyHead, ih, Nat.add_zero]

/-! ## Carriage returns -/

/-- A carriage return at the end of a line is trimmed. -/
theorem trim_concat_return (line : List Char) : trim (line ++ ['\r']) = trim line :=
  List.rdropWhile_concat_pos _ _ '\r' (decide_eq_true rfl)

/-- Nothing is trimmed of a line that ends with another character. -/
theorem trim_concat {char : Char} (h : char ≠ '\r') (line : List Char) :
    trim (line ++ [char]) = line ++ [char] :=
  List.rdropWhile_concat_neg _ _ char (by simpa using h)

/-- What is left of a line does not end with a carriage return, and nothing else was taken away. -/
theorem trim_spec (line : List Char) :
    (∃ returns, line = trim line ++ List.replicate returns '\r') ∧
      (trim line).getLast? ≠ some '\r' := by
  induction line using List.reverseRecOn with
  | nil => exact ⟨⟨0, rfl⟩, by simp [trim]⟩
  | append_singleton line char ih =>
    by_cases h : char = '\r'
    · obtain ⟨⟨returns, hreturns⟩, hlast⟩ := ih
      rw [h, trim_concat_return]
      refine ⟨⟨returns + 1, ?_⟩, hlast⟩
      rw [List.replicate_succ', ← List.append_assoc, ← hreturns]
    · rw [trim_concat h]
      exact ⟨⟨0, (List.append_nil _).symm⟩, by simpa using h⟩

/-- What does not end with a carriage return is left, whatever comes behind it. -/
theorem trim_append {front : List Char} (h : front ≠ []) (hlast : front.getLast? ≠ some '\r')
    (back : List Char) : trim (front ++ back) = front ++ trim back := by
  induction back using List.reverseRecOn with
  | nil =>
    obtain ⟨line, char, rfl⟩ := (List.eq_nil_or_concat front).resolve_left h
    have hchar : char ≠ '\r' := by simpa using hlast
    rw [List.append_nil, List.concat_eq_append, trim_concat hchar]
    exact (List.append_nil _).symm
  | append_singleton back last ih =>
    rw [← List.append_assoc]
    by_cases hreturn : last = '\r'
    · rw [hreturn, trim_concat_return, trim_concat_return, ih]
    · rw [trim_concat hreturn, trim_concat hreturn, List.append_assoc]

/-! ## Lines on the way -/

/-- What a text leads to the end of: the characters since its last newline, behind those of `line`
if it has no newline. -/
def lastLine (line text : List Char) : List Char :=
  text.foldl (fun line char => if char = '\n' then [] else line ++ [char]) line

/-- Without further text, the last line is the one that is open. -/
@[simp] theorem lastLine_nil (line : List Char) : lastLine line [] = line := rfl

/-- A newline begins another line, and every other character goes on with the open one. -/
@[simp] theorem lastLine_cons (line : List Char) (char : Char) (text : List Char) :
    lastLine line (char :: text) =
      lastLine (if char = '\n' then [] else line ++ [char]) text := rfl

/-- The last line of two texts behind one another is open behind the first where the second goes
on. -/
theorem lastLine_append (line first second : List Char) :
    lastLine line (first ++ second) = lastLine (lastLine line first) second := by
  simp [lastLine]

/-- A text without a newline goes on with the open line. -/
theorem lastLine_of_notMem {text : List Char} (h : '\n' ∉ text) (line : List Char) :
    lastLine line text = line ++ text := by
  induction text generalizing line with
  | nil => simp
  | cons char text ih =>
    rw [List.mem_cons, not_or] at h
    rw [lastLine_cons, if_neg (Ne.symm h.1), ih h.2, List.append_assoc]
    rfl

/-- There is no newline in the last line. -/
theorem notMem_lastLine {line : List Char} (h : '\n' ∉ line) (text : List Char) :
    '\n' ∉ lastLine line text := by
  induction text generalizing line with
  | nil => exact h
  | cons char text ih =>
    rw [lastLine_cons]
    split
    · exact ih (by simp)
    · next hchar => exact ih (by simpa [h] using Ne.symm hchar)

/-- The column of a location counts the characters since the last newline. -/
theorem column_advanceOver {location : Location} {line : List Char}
    (h : location.column = line.length + 1) (text : List Char) :
    (location.advanceOver text).column = (lastLine line text).length + 1 := by
  induction text generalizing location line with
  | nil => exact h
  | cons char text ih =>
    rw [Location.advanceOver_cons, lastLine_cons]
    by_cases hnewline : char = '\n'
    · exact ih (by simp [Location.advance, hnewline])
    · exact ih (by simp [Location.advance, hnewline, h])

/-- Behind as many newlines as a text has, what it leads to the end of comes first. -/
theorem behindNewlines_lastLine {line : List Char} (h : '\n' ∉ line) (text rest : List Char) :
    behindNewlines (text.count '\n') (line ++ (text ++ rest)) =
      some (lastLine line text ++ rest) := by
  induction text generalizing line with
  | nil => rfl
  | cons char text ih =>
    rw [lastLine_cons]
    by_cases hnewline : char = '\n'
    · rw [hnewline, List.count_cons_self, behindNewlines, List.cons_append,
        List.dropWhile_append_of_pos (ne_newline_of_notMem h), if_pos rfl, ← @ih [] (by simp)]
      rfl
    · have hline : '\n' ∉ line ++ [char] := by simpa [h] using Ne.symm hnewline
      rw [if_neg hnewline, List.count_cons_of_ne hnewline, ← ih hline]
      simp

/-- The line of a location begins with what was read since the last newline. -/
theorem line?_advanceOver (front rest : List Char) :
    (⟨front ++ rest⟩ : SourceLines).line? (Location.start.advanceOver front).line =
      some (trim (lastLine [] front ++ rest.takeWhile (· ≠ '\n'))) := by
  have hline : '\n' ∉ lastLine [] front := notMem_lastLine (by simp) front
  have hbehind := @behindNewlines_lastLine [] (by simp) front rest
  rw [line?, Location.line_advanceOver, if_neg (by simp [Location.start]), Location.start,
    Nat.add_sub_cancel_left, ← List.nil_append (front ++ rest), hbehind, Option.map_some,
    List.takeWhile_append_of_pos (ne_newline_of_notMem hline)]

/-! ## Stretches of a line -/

/-- A span covers a text within one line, which has it at the columns of the span. -/
structure Shows (lines : SourceLines) (span : Span) (text : List Char) : Prop where
  line_eq : span.start.line = span.stop.line
  column_pos : 1 ≤ span.start.column
  column_lt : span.start.column < span.stop.column
  exists_line : ∃ line, lines.line? span.start.line = some line ∧
    span.stop.column - 1 ≤ line.length ∧
    line.extract (span.start.column - 1) (span.stop.column - 1) = text

section

variable {text : List Char}

/-- A stretch of a text that leads to the same line has no newline. -/
theorem notMem_of_line_eq {front : List Char}
    (h : (Location.start.advanceOver front).line =
      (Location.start.advanceOver (front ++ text)).line) : '\n' ∉ text := by
  rw [Location.line_advanceOver, Location.line_advanceOver, List.count_append] at h
  exact List.count_eq_zero.1 (by omega)

/-- A stretch of a text within a line leads as many columns further as it has characters. -/
theorem advanceOver_of_notMem (hnewline : '\n' ∉ text) (front : List Char) :
    (Location.start.advanceOver front).line = (Location.start.advanceOver (front ++ text)).line ∧
      (Location.start.advanceOver front).column = (lastLine [] front).length + 1 ∧
      (Location.start.advanceOver (front ++ text)).column =
        (lastLine [] front).length + text.length + 1 := by
  have hstop := @column_advanceOver .start [] rfl (front ++ text)
  rw [lastLine_append, lastLine_of_notMem hnewline, List.length_append] at hstop
  refine ⟨?_, @column_advanceOver .start [] rfl front, hstop⟩
  rw [Location.line_advanceOver, Location.line_advanceOver, List.count_append,
    List.count_eq_zero.2 hnewline, Nat.add_zero]

/-- The line of a stretch of a text without a newline, in front of its carriage returns. -/
theorem line?_of_notMem (hnewline : '\n' ∉ text) (front rest : List Char) :
    (⟨front ++ (text ++ rest)⟩ : SourceLines).line? (Location.start.advanceOver front).line =
      some (trim (lastLine [] front ++ text ++ rest.takeWhile (· ≠ '\n'))) := by
  rw [line?_advanceOver, List.takeWhile_append_of_pos (ne_newline_of_notMem hnewline),
    List.append_assoc]

/-- A stretch of a text without a newline, and without a carriage return at its end, is shown by its
line. -/
theorem shows_of_notMem (hnewline : '\n' ∉ text) (hnonempty : text ≠ [])
    (hlast : text.getLast? ≠ some '\r') (front rest : List Char) :
    Shows ⟨front ++ (text ++ rest)⟩
      ⟨Location.start.advanceOver front, Location.start.advanceOver (front ++ text)⟩ text := by
  obtain ⟨hline, hstart, hstop⟩ := advanceOver_of_notMem hnewline front
  have hpositive := List.length_pos_of_ne_nil hnonempty
  have hshown := line?_of_notMem hnewline front rest
  rw [trim_append (by simp [hnonempty])
    (by rwa [List.getLast?_append_of_ne_nil _ hnonempty])] at hshown
  refine ⟨hline, ?_, ?_, _, hshown, ?_, ?_⟩
  · simp only [hstart]
    omega
  · simp only [hstart, hstop]
    omega
  · simp only [hstop, List.length_append]
    omega
  · simp [hstart, hstop, List.extract]

end

end SourceLines

/-! ## Lexemes -/

namespace Lexeme

variable {first : Char} {tail : List Char}

/-- A lexeme is a comment, closed or not. -/
def IsComment (lexeme : Lexeme) : Prop :=
  (∃ text, lexeme = .comment text) ∨ ∃ text, lexeme = .openComment text

/-- A number ends in front of white space, wherever that stands. -/
theorem isBlank_of_mem_number (hdigit : isDigit first = true) {char : Char}
    (h : char ∈ (split first tail).1.text) : isBlank char = false := by
  have hhead := head?_text first tail
  rw [split_of_isDigit hdigit] at hhead h
  obtain ⟨before, behind, htext⟩ := List.append_of_mem h
  simp only [text] at hhead htext
  cases before with
  | nil =>
    rw [htext] at hhead
    obtain rfl : char = first := Option.some.inj hhead
    exact isBlank_of_isAlphanum (isAlphanum_of_isDigit hdigit)
  | cons next before =>
    have hscan : splitWhere endsNumber [first] tail = (next :: before ++ char :: behind, _) :=
      Prod.ext htext rfl
    have hstop := not_stop_of_splitWhere hscan (by simp)
    by_contra hblank
    rw [Bool.not_eq_false] at hblank
    rw [endsNumber_of_isBlank hblank] at hstop
    cases hstop

/-- White space stands in no lexeme but comments. -/
theorem isBlank_of_mem_text (hvisible : isBlank first = false)
    (hcomment : ¬ (split first tail).1.IsComment) :
    ∀ char ∈ (split first tail).1.text, isBlank char = false := by
  by_cases hdigit : isDigit first = true
  · exact fun char hchar => isBlank_of_mem_number hdigit hchar
  · have hhead := head?_text first tail
    have hform := split_form first tail
    generalize (split first tail).1 = lexeme, (split first tail).2 = rest at *
    cases hform with
    | number hnumber =>
      simp only [text] at hhead
      rw [hhead] at hnumber
      exact absurd hnumber hdigit
    | line | block => exact absurd (.inl ⟨_, rfl⟩) hcomment
    | openBlock => exact absurd (.inr ⟨_, rfl⟩) hcomment
    | word hbegins hinner hrest =>
      obtain rfl := Option.some.inj hhead
      refine List.forall_mem_cons.2 ⟨hvisible, fun char hchar => ?_⟩
      have hseparator := hinner char hchar
      rw [isSeparator, Bool.or_eq_false_iff] at hseparator
      exact hseparator.1
    | @pair _ second _ symbol hpair =>
      obtain rfl := Option.some.inj hhead
      refine List.forall_mem_cons.2 ⟨hvisible, List.forall_mem_singleton.2 ?_⟩
      by_contra hblank
      rw [Bool.not_eq_false] at hblank
      rw [ofPair?_of_isBlank hblank] at hpair
      cases hpair
    | single _ _ _ =>
      obtain rfl := Option.some.inj hhead
      exact List.forall_mem_singleton.2 hvisible

/-- Lexemes other than comments are shown by their lines. -/
theorem shows (hvisible : isBlank first = false) (hcomment : ¬ (split first tail).1.IsComment)
    (front : List Char) :
    SourceLines.Shows ⟨front ++ first :: tail⟩
      ⟨Location.start.advanceOver front,
        Location.start.advanceOver (front ++ (split first tail).1.text)⟩
      (split first tail).1.text := by
  have hsolid := isBlank_of_mem_text hvisible hcomment
  have hnewline : '\n' ∉ (split first tail).1.text := fun hmem => by
    cases hsolid _ hmem
  have hlast : (split first tail).1.text.getLast? ≠ some '\r' := fun hlast => by
    cases hsolid _ (List.mem_of_getLast? hlast)
  have hshows := SourceLines.shows_of_notMem hnewline (text_ne_nil first tail) hlast front
    (split first tail).2
  rwa [text_append_rest] at hshows

end Lexeme

/-! ## Items -/

/-- The text that an item tells, unless it is about a comment or a limit: that of a token, or that
which was refused as one. -/
def Item.text? : Item → Option String
  | .ok token => if token.isComment then none else some token.text
  | .error (.token error) => some error.text
  | .error _ => none

/-- What is made of a lexeme is about the span that it was given. -/
theorem Lexeme.span_token (lexeme : Lexeme) (span : Span) :
    Item.span (lexeme.token span) = span :=
  (lexeme.token_accounts span [] fun _ _ => rfl).2

/-- A lexeme whose text is told is no comment. -/
theorem Item.text?_token {lexeme : Lexeme} {span : Span} {text : String}
    (h : Item.text? (lexeme.token span) = some text) :
    ¬ lexeme.IsComment ∧ text.toList = lexeme.text := by
  obtain ⟨haccounts, -⟩ := lexeme.token_accounts span [] fun _ _ => rfl
  cases hitem : lexeme.token span with
  | ok token =>
    rw [hitem] at h haccounts
    have hcomment : token.isComment = false := by
      by_contra hcomment
      simp [Item.text?, hcomment] at h
    obtain rfl : token.text = text := by simpa [Item.text?, hcomment] using h
    refine ⟨?_, by rw [show token.text = _ from haccounts, String.toList_ofList]⟩
    rintro (hlexeme | ⟨chars, hlexeme⟩)
    · rw [(Lexeme.isComment_iff hitem).2 hlexeme] at hcomment
      cases hcomment
    · exact Lexeme.closed_of_token hitem chars hlexeme
  | error error =>
    rw [hitem] at h haccounts
    cases error with
    | token refused =>
      obtain rfl : refused.text = text := Option.some.inj h
      refine ⟨?_, by rw [show refused.text = _ from haccounts, String.toList_ofList]⟩
      rintro (⟨chars, rfl⟩ | ⟨chars, rfl⟩)
      · cases (Lexeme.token_comment_eq_error_iff.1 hitem).2
      · cases hitem
    | _ => cases h

namespace Lexer

variable {preferences : LexicalPreferences} {source : String} {item : Item}

/-- What an item tells stands in its line. -/
theorem shows_of_item {text : String} (h : item ∈ (ofString preferences source).run.items)
    (htext : Item.text? item = some text) :
    (SourceLines.ofString source).Shows (Item.span item) text.toList := by
  obtain ⟨front, first, tail, hsource, hvisible, ⟨count, -, rfl⟩ | rfl⟩ := item_cases h
  · cases htext
  · obtain ⟨hcomment, htext⟩ := Item.text?_token htext
    have hshows := Lexeme.shows hvisible hcomment front
    rw [← show source.toList = _ from hsource] at hshows
    rw [Lexeme.span_token, htext]
    exact hshows

/-- Every item begins behind a beginning of the text. -/
theorem start_of_item (h : item ∈ (ofString preferences source).run.items) :
    ∃ front, front <+: source.toList ∧
      (Item.span item).start = Location.start.advanceOver front := by
  obtain ⟨front, first, tail, hsource, -, ⟨count, -, rfl⟩ | rfl⟩ := item_cases h
  · exact ⟨front, ⟨_, hsource.symm⟩, rfl⟩
  · exact ⟨front, ⟨_, hsource.symm⟩, by rw [Lexeme.span_token]; rfl⟩

/-- The tokens that are ahead of a lexer are among its items. -/
theorem ok_mem_items {lexer : Lexer} {token : Token} (h : token ∈ lexer.ahead.tokens) :
    (.ok token : Item) ∈ lexer.run.items ∧ token.isComment = false := by
  obtain ⟨htoken, hcomment⟩ := List.mem_filter.1 h
  refine ⟨?_, by simpa using hcomment⟩
  have hmem : (.ok token : Item) ∈ lexer.takeTokens.tokens.map .ok :=
    List.mem_map_of_mem htoken
  rcases lexer.items_run_eq with ⟨-, hitems⟩ | ⟨error, later, -, hitems⟩
  · rwa [hitems]
  · rw [hitems]
    exact List.mem_append_left _ hmem

/-- An error that ends the tokens ahead of a lexer is among its items. -/
theorem error_mem_items {lexer : Lexer} {error : LexicalError}
    (h : lexer.ahead.ending = .failed error) : (.error error : Item) ∈ lexer.run.items := by
  simp only [ahead, Tokens.ending] at h
  rcases lexer.items_run_eq with ⟨hnone, -⟩ | ⟨first, later, hsome, hitems⟩
  · rw [hnone] at h
    cases h
  · rw [hsome] at h
    obtain rfl := Ending.failed.inj h
    simp [hitems]

end Lexer

/-! ## Errors -/

/-- What an error is about is ahead: the token that was refused or at which a limit is broken, or
the end of the tokens. -/
def SyntaxError.About (ahead : Ahead) : SyntaxError → Prop
  | .unexpectedToken _ token => token ∈ ahead.tokens
  | .unexpectedEnd _ location => ahead.ending = .finished location
  | .nestingTooDeep _ location => ∃ token ∈ ahead.tokens, location = token.span.start
  | .tooManyArguments _ _ _ location => ∃ token ∈ ahead.tokens, location = token.span.start
  | .lexical error => ahead.ending = .failed error

/-- An error about tokens that are ahead is about more of them. -/
theorem SyntaxError.About.mono {ahead behind : Ahead} {error : SyntaxError}
    (h : error.About behind) (htokens : behind.tokens ⊆ ahead.tokens)
    (hending : behind.ending = ahead.ending) : error.About ahead := by
  cases error with
  | unexpectedToken expected token => exact htokens h
  | unexpectedEnd expected location => exact hending.symm.trans h
  | nestingTooDeep depth location => exact h.imp fun token htoken => ⟨htokens htoken.1, htoken.2⟩
  | tooManyArguments function count limit location =>
    exact h.imp fun token htoken => ⟨htokens htoken.1, htoken.2⟩
  | lexical error => exact hending.symm.trans h

/-- Tokens that break a limit have the one that the error is about. -/
theorem Parse.Excessive.about {tokens : List Token} {error : SyntaxError}
    (h : Parse.Excessive tokens error) (ending : Ending) : error.About ⟨tokens, ending⟩ := by
  rcases h with ⟨front, token, shallow, rfl, -, rfl, -⟩ |
    ⟨word, name, opening, list, arguments, rfl, -, -, -, -, -, rfl⟩
  · exact ⟨token, by simp, rfl⟩
  · exact ⟨name, by simp, rfl⟩

namespace Parser

/-- An error of the parser is about what is ahead. -/
theorem about_of_parse {parser : Parser} {error : SyntaxError} (h : parser.parse.1 = .error error) :
    error.About parser.ahead := by
  have hfollows := Parse.program_follows parser
  unfold parse at h
  unfold Parse.FollowsAt at hfollows
  cases hprogram : Parse.program parser with
  | ok parts behind =>
    rw [hprogram] at h
    cases h
  | error found stuck =>
    rw [hprogram] at h hfollows
    obtain rfl : found = error := Except.error.inj h
    cases hfollows with
    | token htokens _ _ =>
      show _ ∈ parser.ahead.tokens
      simp [htokens]
    | finished hending _ _ => exact hending
    | failed hending _ => exact hending
    | excess htokens _ _ hexcess _ =>
      obtain ⟨front, parts, back, rfl, -, -, hback⟩ := hexcess
      have hmem : back ⊆ parser.ahead.tokens := by simp [htokens]
      exact (hback.about parser.ahead.ending).mono hmem rfl

/-- So is an error of any later call, which finds less ahead. -/
theorem about_of_parseTimes {parser : Parser} {error : SyntaxError} {calls : Nat}
    (h : .error error ∈ (parser.parseTimes calls).1) : error.About parser.ahead := by
  induction calls generalizing parser with
  | zero => cases h
  | succ calls ih =>
    rcases List.mem_cons.1 h with hfirst | hlater
    · exact about_of_parse hfirst.symm
    · obtain ⟨taken, htaken⟩ := parser.takes_parse
      have hahead : parser.ahead = parser.parse.2.ahead.behind _ := htaken.ahead_eq
      rw [hahead]
      exact (ih hlater).mono (List.subset_append_right _ _) rfl

end Parser

/-- What an error is about begins behind a beginning of the text. -/
theorem SyntaxError.About.start {preferences : LexicalPreferences} {source : String}
    {error : SyntaxError} (h : error.About (Lexer.ofString preferences source).ahead) :
    ∃ front, front <+: source.toList ∧ error.span.start = Location.start.advanceOver front := by
  cases error with
  | unexpectedToken expected token => exact Lexer.start_of_item (Lexer.ok_mem_items h).1
  | unexpectedEnd expected location =>
    exact ⟨source.toList, List.prefix_rfl, Lexer.location_of_finished rfl h⟩
  | nestingTooDeep depth location =>
    obtain ⟨token, htoken, rfl⟩ := h
    exact Lexer.start_of_item (Lexer.ok_mem_items htoken).1
  | tooManyArguments function count limit location =>
    obtain ⟨token, htoken, rfl⟩ := h
    exact Lexer.start_of_item (Lexer.ok_mem_items htoken).1
  | lexical error => exact Lexer.start_of_item (Lexer.error_mem_items h)

/-- A location behind a beginning of a text has a line. -/
theorem SourceLines.exists_line {text : List Char} {location : Location}
    (h : ∃ front, front <+: text ∧ location = Location.start.advanceOver front) :
    ∃ line, (⟨text⟩ : SourceLines).line? location.line = some line := by
  obtain ⟨front, ⟨rest, rfl⟩, rfl⟩ := h
  exact ⟨_, line?_advanceOver front rest⟩

/-- The lines that are cut out of a source by offsets in bytes are its pieces between newlines,
without the carriage returns at their ends, and there are no others; the line of any token other
than a comment, and of any text that was refused as a token, has the text at the columns of its
span; and every error of the lexer, or of a parser in any number of calls, has a line. -/
theorem line_accounts_agree (preferences : Preferences) (source : String) (earlier : List Event) :
    let lines := SourceLines.ofString source
    let lexer := Lexer.ofString preferences.lexical source
    let parser := Parser.ofLexer preferences.syntactic lexer earlier
    (lines.lineStarts.length = lines.count ∧ lines.count = source.toList.count '\n' + 1) ∧
    (∀ number, lines.lineChecked number = .ok (lines.line? number)) ∧
    (∀ number, 1 ≤ number → number ≤ lines.count → ∃ line returns,
      lines.line? number = some line ∧ line.getLast? ≠ some '\r' ∧
      (source.toList.splitOn '\n')[number - 1]? =
        some (line ++ List.replicate returns '\r')) ∧
    (∀ number, number = 0 ∨ lines.count < number → lines.line? number = none) ∧
    (∀ item ∈ lexer.run.items, ∀ text, Item.text? item = some text →
      lines.Shows (Item.span item) text.toList) ∧
    (∀ error, .error error ∈ lexer.run.items →
      ∃ line, lines.line? error.span.start.line = some line) ∧
    ∀ calls error, .error error ∈ (parser.parseTimes calls).1 →
      ∃ line, lines.line? error.span.start.line = some line := by
  intro lines lexer parser
  have hcount : (source.toList.splitOn '\n').length = lines.count :=
    SourceLines.length_splitOn source.toList
  refine ⟨⟨lines.length_lineStarts, rfl⟩, lines.lineChecked_eq, fun number hpos hle => ?_,
    fun number hout => ?_, ?_, fun error herror => ?_, fun calls error herror => ?_⟩
  · obtain ⟨piece, hpiece⟩ : ∃ piece, (source.toList.splitOn '\n')[number - 1]? = some piece :=
      ⟨_, List.getElem?_eq_getElem (by omega)⟩
    have hline : lines.line? number = ((source.toList.splitOn '\n')[number - 1]?).map _ :=
      lines.line?_eq_splitOn hpos
    rw [hpiece] at hline
    obtain ⟨⟨returns, hreturns⟩, hlast⟩ := SourceLines.trim_spec piece
    exact ⟨_, returns, hline, hlast, hpiece.trans (congrArg some hreturns)⟩
  · rcases hout with rfl | hlt
    · rfl
    · have hline : lines.line? number = ((source.toList.splitOn '\n')[number - 1]?).map _ :=
        lines.line?_eq_splitOn (by omega)
      rw [hline, List.getElem?_eq_none (by omega), Option.map_none]
  · exact fun item hitem text htext => Lexer.shows_of_item hitem htext
  · exact SourceLines.exists_line (Lexer.start_of_item herror)
  · have habout : error.About lexer.ahead :=
      Parser.ahead_ofLexer preferences.syntactic lexer earlier ▸ Parser.about_of_parseTimes herror
    exact SourceLines.exists_line habout.start

/-- Lines are cut out in bytes, of which the first character has two. -/
example : (SourceLines.ofString "é\r\n\tx").lineStarts = [0, 4] ∧
    (SourceLines.ofString "é\r\n\tx").lineChecked 1 = .ok (some ['é']) ∧
    (SourceLines.ofString "é\r\n\tx").lineChecked 2 = .ok (some ['\t', 'x']) :=
  ⟨rfl, rfl, rfl⟩

end VinylSyntax
