import VinylSyntax.Proofs.Lines

/-!
# Underlines

An excerpt shows a line without its carriage returns and underlines a span in it. The blanks in
front of the carets are no more than the line has characters, and so are the carets if the span goes
on to a further line; for a span within the line they are counted by its columns alone. The spans of
errors stay within the line that is shown but for one case: a comment that ends with a carriage
return, which the line does not show. See `underline_stays_within`.
-/

namespace VinylSyntax

namespace SourceLines

/-- The number of carets below a line of some length. -/
def carets (length : Nat) (span : Span) : Nat := max (width length span) 1

/-- Carets stand below the characters of a line, or a single one right behind them. -/
def StaysWithin (length indent carets : Nat) : Prop :=
  indent + carets ≤ length ∨ indent = length ∧ carets = 1

/-- The carets for a span stay within a line. -/
def Fits (line : List Char) (span : Span) : Prop :=
  StaysWithin line.length (indent line.length span) (carets line.length span)

variable {lines : SourceLines} {span : Span} {line text : List Char}

/-- What is written under a line is drawn with its indent and its carets. -/
theorem underlined_eq_drawn (line : List Char) (span : Span) : underlined line span =
    drawn span.start.line line (indent line.length span) (carets line.length span) := by
  have hcarets : max (carets line.length span) 1 = carets line.length span :=
    Nat.max_eq_left (Nat.le_max_right _ _)
  rw [drawn, hcarets]
  rfl

/-! ## Spans that stay within the line -/

/-- A span that goes on to a further line is underlined to the end of its first one. -/
theorem fits_of_lines (h : span.start.line ≠ span.stop.line) (line : List Char) :
    Fits line span := by
  have hindent : indent line.length span ≤ line.length := Nat.min_le_right _ _
  rw [Fits, StaysWithin, carets, width, if_neg h]
  omega

/-- What its line shows is underlined. -/
theorem Shows.fits (h : lines.Shows span text)
    (hline : lines.line? span.start.line = some line) : Fits line span := by
  obtain ⟨shown, hshown, hstop, -⟩ := h.exists_line
  obtain rfl : shown = line := Option.some.inj (hshown.symm.trans hline)
  have hlt := h.column_lt
  have hpos := h.column_pos
  rw [Fits, StaysWithin, carets, width, if_pos h.line_eq, indent]
  omega

/-- Where the line shows a text, the place in front of it is marked by a caret below its first
character. -/
theorem Shows.fits_point (h : lines.Shows span text)
    (hline : lines.line? span.start.line = some line) : Fits line (.point span.start) := by
  obtain ⟨shown, hshown, hstop, -⟩ := h.exists_line
  obtain rfl : shown = line := Option.some.inj (hshown.symm.trans hline)
  have hlt := h.column_lt
  have hpos := h.column_pos
  simp only [Fits, StaysWithin, carets, width, indent, Span.point, if_true]
  omega

/-- A character that is not blank is shown by its line. -/
theorem shows_visible {first : Char} (hvisible : isBlank first = false) (front tail : List Char) :
    Shows ⟨front ++ first :: tail⟩
      ⟨Location.start.advanceOver front, Location.start.advanceOver (front ++ [first])⟩
      [first] := by
  have hnewline : '\n' ∉ [first] := fun hmem => by
    rw [← List.mem_singleton.1 hmem] at hvisible
    cases hvisible
  have hlast : [first].getLast? ≠ some '\r' := fun hlast => by
    rw [show first = '\r' from Option.some.inj hlast] at hvisible
    cases hvisible
  exact shows_of_notMem hnewline (List.cons_ne_nil _ _) hlast front tail

/-- Trimming makes no line longer. -/
theorem length_trim_le (line : List Char) : (trim line).length ≤ line.length :=
  (List.rdropWhile_prefix _ line).length_le

/-- The end of a text is marked by a caret right behind its last line. -/
theorem fits_end
    (hline : (⟨text⟩ : SourceLines).line? (Location.start.advanceOver text).line = some line) :
    Fits line (.point (Location.start.advanceOver text)) := by
  have hshown := line?_advanceOver text []
  rw [List.append_nil, hline, List.takeWhile_nil, List.append_nil] at hshown
  obtain rfl := Option.some.inj hshown
  have hcolumn := @column_advanceOver .start [] rfl text
  have hle := length_trim_le (lastLine [] text)
  simp only [Fits, StaysWithin, carets, width, indent, Span.point, if_true, hcolumn]
  omega

/-! ## Comments -/

section comments

variable {front rest inner : List Char} {first : Char}

/-- For a stretch that ends a line with a carriage return, the carets reach past the line that is
shown. -/
theorem not_fits_return (hfirst : first ≠ '\r') (hnewline : '\n' ∉ first :: inner ++ ['\r'])
    (hrest : rest.takeWhile (· ≠ '\n') = [])
    (hline : (⟨front ++ (first :: inner ++ ['\r'] ++ rest)⟩ : SourceLines).line?
      (Location.start.advanceOver front).line = some line) :
    ¬ Fits line ⟨Location.start.advanceOver front,
      Location.start.advanceOver (front ++ (first :: inner ++ ['\r']))⟩ := by
  obtain ⟨hlines, hstart, hstop⟩ := advanceOver_of_notMem hnewline front
  have hshown := line?_of_notMem hnewline front rest
  -- What the line shows begins with the stretch, but without the carriage return.
  rw [hline, hrest, List.append_nil, ← List.append_assoc, trim_concat_return, List.append_cons,
    trim_append (by simp) (by simpa using hfirst)] at hshown
  obtain rfl := Option.some.inj hshown
  have hle := length_trim_le inner
  simp only [Fits, StaysWithin, carets, width, indent, if_pos hlines, hstart, hstop,
    List.length_append, List.length_cons, List.length_nil]
  omega

/-- A stretch fits its line, unless it ends the line with a carriage return. -/
theorem fits_iff (hfirst : first ≠ '\r')
    (hrest : (first :: inner).getLast? = some '\r' → rest.takeWhile (· ≠ '\n') = [])
    (hline : (⟨front ++ (first :: inner ++ rest)⟩ : SourceLines).line?
      (Location.start.advanceOver front).line = some line) :
    Fits line ⟨Location.start.advanceOver front,
        Location.start.advanceOver (front ++ first :: inner)⟩ ↔
      ¬ ('\n' ∉ first :: inner ∧ (first :: inner).getLast? = some '\r') := by
  by_cases hnewline : '\n' ∈ first :: inner
  · refine iff_of_true (fits_of_lines ?_ _) fun h => h.1 hnewline
    exact fun hlines => notMem_of_line_eq hlines hnewline
  by_cases hlast : (first :: inner).getLast? = some '\r'
  · refine iff_of_false ?_ fun h => h ⟨hnewline, hlast⟩
    obtain ⟨before, hbefore⟩ := List.getLast?_eq_some_iff.1 hlast
    cases before with
    | nil => exact absurd (List.cons.inj hbefore).1 hfirst
    | cons next before =>
      obtain ⟨rfl, rfl⟩ := List.cons.inj hbefore
      exact not_fits_return hfirst hnewline (hrest hlast) hline
  · have hshows := shows_of_notMem hnewline (List.cons_ne_nil _ _) hlast front rest
    exact iff_of_true (hshows.fits hline) fun h => hlast h.2

end comments

end SourceLines

/-! ## Errors about comments -/

/-- Whether an error is about a comment. -/
def LexicalError.isComment : LexicalError → Bool
  | .unterminatedComment _ => true
  | .commentTooLong _ _ => true
  | _ => false

/-- An error is about a comment within a line that ends with a carriage return. -/
structure SyntaxError.EndsInReturn (source : List Char) (error : SyntaxError) : Prop where
  comment : ∃ reason, error = .lexical reason ∧ reason.isComment = true
  line_eq : error.span.start.line = error.span.stop.line
  last : ∃ front, front ++ ['\r'] <+: source ∧
    error.span.stop = Location.start.advanceOver (front ++ ['\r'])

/-- An error that the lexer has no part in is not about a comment that ends in a carriage return. -/
theorem SyntaxError.not_endsInReturn {source : List Char} {error : SyntaxError}
    (h : ∀ reason, error ≠ .lexical reason) : ¬ error.EndsInReturn source := by
  intro hends
  obtain ⟨reason, hreason, -⟩ := hends.comment
  exact h reason hreason

/-- Different beginnings of a text lead to different locations. -/
theorem Location.advanceOver_injective {text first second : List Char} (hfirst : first <+: text)
    (hsecond : second <+: text)
    (h : start.advanceOver first = start.advanceOver second) : first = second := by
  wlog hprefix : first <+: second generalizing first second
  · exact (this hsecond hfirst h.symm
      ((List.prefix_or_prefix_of_prefix hfirst hsecond).resolve_left hprefix)).symm
  obtain ⟨behind, rfl⟩ := hprefix
  by_contra hne
  have hbehind : behind ≠ [] := by
    rintro rfl
    exact hne (List.append_nil _).symm
  have hlt := (start.advanceOver first).lt_advanceOver hbehind
  rw [← advanceOver_append, ← h] at hlt
  exact not_lt_of_le (le_refl _) hlt

/-- Whether an error about a comment is one about a carriage return can be told from the comment. -/
theorem SyntaxError.endsInReturn_iff {error : LexicalError} {front text rest : List Char}
    (hmade : error.isComment = true) (hnonempty : text ≠ [])
    (hspan : error.span =
      ⟨Location.start.advanceOver front, Location.start.advanceOver (front ++ text)⟩) :
    (SyntaxError.lexical error).EndsInReturn (front ++ (text ++ rest)) ↔
      '\n' ∉ text ∧ text.getLast? = some '\r' := by
  have hprefix : front ++ text <+: front ++ (text ++ rest) := ⟨rest, List.append_assoc _ _ _⟩
  constructor
  · rintro ⟨-, hlines, other, hother, hstop⟩
    rw [show (lexical error).span = _ from hspan] at hlines hstop
    refine ⟨SourceLines.notMem_of_line_eq hlines, ?_⟩
    have heq := congrArg List.getLast? (Location.advanceOver_injective hprefix hother hstop)
    rwa [List.getLast?_append_of_ne_nil _ hnonempty, List.getLast?_concat] at heq
  · rintro ⟨hnewline, hlast⟩
    obtain ⟨inner, rfl⟩ := List.getLast?_eq_some_iff.1 hlast
    rw [← List.append_assoc] at hprefix
    refine ⟨⟨error, rfl, hmade⟩, ?_, front ++ inner, hprefix, ?_⟩
    · rw [show (lexical error).span = _ from hspan]
      exact (SourceLines.advanceOver_of_notMem hnewline front).1
    · rw [show (lexical error).span = _ from hspan, List.append_assoc]

namespace Lexeme

variable {lexeme : Lexeme} {rest : List Char} {span : Span} {error : LexicalError}

/-- What is refused as a token is no comment. -/
theorem isComment_of_mapError {result : Except TokenError Token}
    (h : result.mapError .token = .error error) : error.isComment = false := by
  cases result with
  | ok token => cases h
  | error refused =>
    cases h
    rfl

/-- Comments are what errors about comments are made of. -/
theorem isComment_error_iff (h : lexeme.token span = .error error) :
    error.isComment = true ↔ lexeme.IsComment := by
  cases lexeme with
  | comment text =>
    obtain ⟨-, rfl⟩ := token_comment_eq_error_iff.1 h
    exact iff_of_true rfl (.inl ⟨text, rfl⟩)
  | openComment text =>
    cases h
    exact iff_of_true rfl (.inr ⟨text, rfl⟩)
  | number text =>
    have hother : error.isComment = false := by
      simp only [token] at h
      split at h
      · cases h
      · exact isComment_of_mapError h
    simp [hother, IsComment]
  | word text =>
    have hother : error.isComment = false := by
      simp only [token] at h
      split at h
      · exact isComment_of_mapError h
      · split at h
        · cases h
          rfl
        · exact isComment_of_mapError h
    simp [hother, IsComment]
  | symbol text => simp [isComment_of_mapError h, IsComment]

/-- Behind a comment that ends with a carriage return, nothing is left of the line. -/
theorem Form.takeWhile_rest (h : Form lexeme rest) (hcomment : lexeme.IsComment)
    (hlast : lexeme.text.getLast? = some '\r') : rest.takeWhile (· ≠ '\n') = [] := by
  cases h with
  | line hinner hrest =>
    cases rest with
    | nil => rfl
    | cons char rest =>
      obtain rfl : char = '\n' := by simpa using hrest
      rfl
  | block hopens hfirst =>
    -- A block comment that is closed ends with its mark.
    obtain ⟨before, rfl⟩ := hfirst.closes.mark
    simp [text] at hlast
  | openBlock hopens hnone => rfl
  | number | word | pair | single => simp [IsComment] at hcomment

end Lexeme

/-! ## Errors of a source -/

section

open SourceLines

variable {preferences : LexicalPreferences} {source : String} {line : List Char}

/-- Of the errors of a lexer, only one about a comment can have carets past its line. -/
theorem Lexer.fits_error_iff {error : LexicalError}
    (h : .error error ∈ (ofString preferences source).run.items)
    (hline : (SourceLines.ofString source).line? error.span.start.line = some line) :
    Fits line error.span ↔ ¬ (SyntaxError.lexical error).EndsInReturn source.toList := by
  obtain ⟨front, first, tail, hrest, hvisible, hmade⟩ := item_cases h
  have hsource : source.toList = front ++ first :: tail := hrest
  rw [SourceLines.ofString, hsource] at hline
  by_cases hcomment : error.isComment = true
  · obtain ⟨count, -, htokens⟩ | hmade := hmade
    · rw [Except.error.inj htokens] at hcomment
      cases hcomment
    · have hspan : error.span = _ := (congrArg Item.span hmade).trans (Lexeme.span_token _ _)
      have hlast := (Lexeme.split_form first tail).takeWhile_rest
        ((Lexeme.isComment_error_iff hmade.symm).1 hcomment)
      have hcut := Lexeme.text_append_rest first tail
      obtain ⟨inner, htext⟩ := List.head?_eq_some_iff.1 (Lexeme.head?_text first tail)
      rw [← hcut, hspan, htext] at hline
      rw [htext] at hspan hlast
      have hfirst : first ≠ '\r' := by
        rintro rfl
        cases hvisible
      have hnonempty : first :: inner ≠ [] := List.cons_ne_nil _ _
      rw [hsource, ← hcut, htext, SyntaxError.endsInReturn_iff hcomment hnonempty hspan, hspan]
      exact fits_iff hfirst hlast hline
  · have hends : ¬ (SyntaxError.lexical error).EndsInReturn source.toList := by
      intro hends
      obtain ⟨reason, hreason, hmade⟩ := hends.comment
      exact hcomment (SyntaxError.lexical.inj hreason ▸ hmade)
    refine iff_of_true ?_ hends
    obtain ⟨count, -, htokens⟩ | hmade := hmade
    · -- A token is refused in front of its first character.
      obtain rfl := Except.error.inj htokens
      exact (shows_visible hvisible front tail).fits_point hline
    · rw [Lexeme.isComment_error_iff hmade.symm] at hcomment
      have hspan : error.span = _ := (congrArg Item.span hmade).trans (Lexeme.span_token _ _)
      have hshows := Lexeme.shows hvisible hcomment front
      rw [hspan] at hline ⊢
      exact hshows.fits hline

/-- The carets for an error about what is ahead of a lexer stay within its line, unless it is about
a comment that ends with a carriage return there. -/
theorem SyntaxError.About.fits_iff {error : SyntaxError}
    (h : error.About (Lexer.ofString preferences source).ahead)
    (hline : (SourceLines.ofString source).line? error.span.start.line = some line) :
    Fits line error.span ↔ ¬ error.EndsInReturn source.toList := by
  have htoken : ∀ token ∈ (Lexer.ofString preferences source).ahead.tokens,
      (SourceLines.ofString source).Shows token.span token.text.toList := fun token htoken => by
    obtain ⟨hitem, hcomment⟩ := Lexer.ok_mem_items htoken
    exact Lexer.shows_of_item hitem (by simp [Item.text?, hcomment])
  cases error with
  | lexical error => exact Lexer.fits_error_iff (Lexer.error_mem_items h) hline
  | unexpectedToken expected token =>
    exact iff_of_true ((htoken token h).fits hline) (not_endsInReturn (by simp))
  | unexpectedEnd expected location =>
    obtain rfl := Lexer.location_of_finished rfl h
    exact iff_of_true (fits_end hline) (not_endsInReturn (by simp))
  | nestingTooDeep depth location =>
    obtain ⟨token, hmem, rfl⟩ := h
    exact iff_of_true ((htoken token hmem).fits_point hline) (not_endsInReturn (by simp))
  | tooManyArguments function count limit location =>
    obtain ⟨token, hmem, rfl⟩ := h
    exact iff_of_true ((htoken token hmem).fits_point hline) (not_endsInReturn (by simp))

end

/-- The errors that are reported about a source: by the lexer on its own, or by the parser. -/
inductive Reported (preferences : Preferences) (source : String) : SyntaxError → Prop where
  | tokenizing {error : LexicalError} (h : tokenize preferences.lexical source = .error error) :
      Reported preferences source (.lexical error)
  | parsing {error : SyntaxError} (h : (parseSource preferences source).result = .error error) :
      Reported preferences source error

/-- Errors that are reported are about what is ahead of the lexer. -/
theorem Reported.about {preferences : Preferences} {source : String} {error : SyntaxError}
    (h : Reported preferences source error) :
    error.About (Lexer.ofString preferences.lexical source).ahead := by
  cases h with
  | @tokenizing error h =>
    show Lexer.Tokens.ending _ = .failed error
    unfold tokenize Lexer.Tokens.result at h
    unfold Lexer.Tokens.ending
    cases hfailure : (Lexer.ofString preferences.lexical source).takeTokens.failure with
    | none => simp [hfailure] at h
    | some first =>
      rw [hfailure] at h
      rw [Except.error.inj h]
  | parsing h =>
    have hahead : (Parser.ofSource preferences source).ahead = _ := Parser.ahead_ofLexer _ _ _
    exact hahead ▸ Parser.about_of_parse h

/-- Every error that is reported about a source is shown with the line that it begins on. The carets
begin below the column of the error, or right behind the line if that ends before, and there is at
least one. They do not reach past the line, but for a single one right behind it, unless the error
is about a comment that ends with a carriage return within the line; then they do. -/
theorem underline_stays_within {preferences : Preferences} {source : String} {error : SyntaxError}
    (h : Reported preferences source error) (message : String) :
    let lines := SourceLines.ofString source
    ∃ line indent carets, lines.line? error.span.start.line = some line ∧
      lines.excerpt error.span message = .ok ("Error: " ++ message ++ "\n  --> " ++
        error.span.start.render ++ "\n" ++
        SourceLines.drawn error.span.start.line line indent carets) ∧
      indent = min (error.span.start.column - 1) line.length ∧ 1 ≤ carets ∧
      (SourceLines.StaysWithin line.length indent carets ↔
        ¬ error.EndsInReturn source.toList) := by
  intro lines
  obtain ⟨front, hfront, hstart⟩ := h.about.start
  obtain ⟨line, hline⟩ := SourceLines.exists_line ⟨front, hfront, hstart⟩
  have hline : lines.line? error.span.start.line = some line := hline
  have hcolumn : error.span.start.column ≠ 0 := by
    rw [hstart, @SourceLines.column_advanceOver .start [] rfl front]
    exact Nat.succ_ne_zero _
  refine ⟨line, _, _, hline, ?_, rfl, Nat.le_max_right _ _, h.about.fits_iff hline⟩
  simp only [SourceLines.excerpt, hline, if_neg hcolumn, SourceLines.underlined_eq_drawn]
  rfl

/-- A character that begins no token is underlined, behind a character of two bytes. -/
theorem underline_stays_within_symbol :
    let error : SyntaxError :=
      .lexical (.token ⟨.malformedSymbol, "@", ⟨⟨1, 3⟩, ⟨1, 4⟩⟩⟩)
    Reported default "é @" error ∧
      ∃ line indent carets, (SourceLines.ofString "é @").line? 1 = some line ∧ indent = 2 ∧
        SourceLines.StaysWithin line.length indent carets := by
  have hresult : (parseSource default "é @").result =
      .error (.lexical (.token ⟨.malformedSymbol, "@", ⟨⟨1, 3⟩, ⟨1, 4⟩⟩⟩)) := by
    with_unfolding_all rfl
  obtain ⟨line, indent, carets, hline, -, hindent, -, hstays⟩ :=
    underline_stays_within (.parsing hresult) ""
  refine ⟨.parsing hresult, line, indent, carets, hline, ?_, hstays.2 fun hends => ?_⟩
  · obtain rfl : ['é', ' ', '@'] = line := Option.some.inj hline
    exact hindent
  · obtain ⟨reason, hreason, hcomment⟩ := hends.comment
    cases hreason
    cases hcomment

/-- The carriage return behind the mark of a comment without end has a caret, though the line is
shown without it. -/
theorem underline_past_line :
    let error : LexicalError := .unterminatedComment ⟨⟨1, 1⟩, ⟨1, 4⟩⟩
    Reported default "/*\r" (.lexical error) ∧
      (SourceLines.ofString "/*\r").line? 1 = some ['/', '*'] ∧
      (SourceLines.ofString "/*\r").excerpt error.span error.message =
        .ok "Error: Unterminated block comment\n  --> 1:1\n  |\n1 | /*\n  | ^^^\n" ∧
      ¬ SourceLines.StaysWithin 2 0 3 := by
  have hresult : (parseSource default "/*\r").result =
      .error (.lexical (.unterminatedComment ⟨⟨1, 1⟩, ⟨1, 4⟩⟩)) := by
    with_unfolding_all rfl
  refine ⟨.parsing hresult, by decide +kernel, by decide +kernel, ?_⟩
  simp [SourceLines.StaysWithin]

end VinylSyntax
