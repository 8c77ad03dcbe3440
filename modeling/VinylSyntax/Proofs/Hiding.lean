import VinylSyntax.Proofs.Acceptance
import VinylSyntax.Proofs.Lexemes
import VinylSyntax.Proofs.Standalone
import VinylSyntax.Proofs.Views

/-!
# Comments are not seen

If every character of every comment of a source is replaced by a blank, newlines aside, nothing
changes for the parser: the tokens other than comments are the same and stand where they stood. A
comment becomes white space in front of the next token; what was next behind a token is a blank now
if it was the slash of a comment, and is what it was otherwise.
-/

namespace VinylSyntax

/-- A text without what it says: blanks in the place of its characters, newlines aside. -/
def blanked (text : List Char) : List Char :=
  text.map fun char => if char = '\n' then '\n' else ' '

/-- A text that begins at a location, with the characters blanked that lie in one of the spans. -/
def hidden (spans : List Span) (location : Location) : List Char → List Char
  | [] => []
  | char :: rest =>
    (if char ≠ '\n' ∧ spans.any (·.contains location) then ' ' else char) ::
      hidden spans (location.advance char) rest

/-- The stretches of source that the comments among tokens cover. -/
def commentSpans (tokens : List Token) : List Span :=
  (tokens.filter Token.isComment).map Token.span

/-- A source with every character blanked that lies in one of its comments. -/
def hideComments (tokens : List Token) (source : String) : String :=
  String.ofList (hidden (commentSpans tokens) .start source.toList)

/-- What is left of the text of a token if comments are blanked. -/
def Token.shown (token : Token) : List Char :=
  if token.isComment then blanked token.text.toList else token.text.toList

/-- The spans of comments are those of the tokens that are comments. -/
theorem mem_commentSpans {tokens : List Token} {span : Span} :
    span ∈ commentSpans tokens ↔ ∃ token ∈ tokens, token.isComment = true ∧ token.span = span := by
  simp [commentSpans, and_assoc]

/-! ## Blanked text -/

/-- Blanked text is white space. -/
theorem isBlank_of_mem_blanked {text : List Char} {char : Char} (h : char ∈ blanked text) :
    isBlank char = true := by
  obtain ⟨original, -, rfl⟩ := List.mem_map.1 h
  split <;> decide

/-- Blanked characters take up as much place as before. -/
theorem advanceOver_blanked (location : Location) (text : List Char) :
    location.advanceOver (blanked text) = location.advanceOver text := by
  induction text generalizing location with
  | nil => rfl
  | cons char text ih =>
    have hadvance : location.advance (if char = '\n' then '\n' else ' ') =
        location.advance char := by
      by_cases hnewline : char = '\n'
      · rw [if_pos hnewline, hnewline]
      · rw [if_neg hnewline, Location.advance, Location.advance, if_neg hnewline,
          if_neg (by decide)]
    rw [blanked, List.map_cons, Location.advanceOver_cons, hadvance]
    exact ih _

/-- A text is hidden stretch by stretch, each one from where it stands. -/
theorem hidden_append (spans : List Span) (location : Location) (front back : List Char) :
    hidden spans location (front ++ back) =
      hidden spans location front ++ hidden spans (location.advanceOver front) back := by
  induction front generalizing location with
  | nil => rfl
  | cons char front ih => simp [hidden, ih]

/-- A span does not contain what lies in front of it or behind it. -/
theorem not_contains_of_le {span : Span} {location : Location}
    (h : span.stop ≤ location ∨ location < span.start) : span.contains location = false := by
  simp only [Span.contains, decide_eq_false_iff_not]
  intro ⟨hstart, hstop⟩
  rcases h with h | h
  · exact Location.not_lt_of_le h hstop
  · exact Location.not_lt_of_le hstart h

/-- A text that lies outside of the spans is not changed. -/
theorem hidden_of_outside {spans : List Span} {location : Location} {text : List Char}
    (h : ∀ span ∈ spans, span.stop ≤ location ∨ location.advanceOver text ≤ span.start) :
    hidden spans location text = text := by
  induction text generalizing location with
  | nil => rfl
  | cons char text ih =>
    have hclear : spans.any (·.contains location) = false := by
      rw [List.any_eq_false]
      intro span hspan
      have hbefore : location < location.advanceOver (char :: text) :=
        Location.lt_advanceOver _ (by simp)
      rw [not_contains_of_le ((h span hspan).imp_right (Location.lt_of_lt_of_le hbefore))]
      simp
    have hrest : hidden spans (location.advance char) text = text :=
      ih fun span hspan => (h span hspan).imp_left fun hle =>
        Location.le_trans hle (Location.le_of_lt (location.lt_advance char))
    simp [hidden, hclear, hrest]

/-- A text that lies in one of the spans is blanked. -/
theorem hidden_of_inside {spans : List Span} {span : Span} {location : Location} {text : List Char}
    (hspan : span ∈ spans) (hstart : span.start ≤ location)
    (hstop : location.advanceOver text ≤ span.stop) :
    hidden spans location text = blanked text := by
  induction text generalizing location with
  | nil => rfl
  | cons char text ih =>
    have hbefore : location < location.advanceOver (char :: text) :=
      Location.lt_advanceOver _ (by simp)
    have hcontains : span.contains location = true := by
      simp [Span.contains, hstart, Location.lt_of_lt_of_le hbefore hstop]
    have hany : spans.any (·.contains location) = true :=
      List.any_eq_true.2 ⟨span, hspan, hcontains⟩
    have hrest : hidden spans (location.advance char) text = blanked text :=
      ih (Location.le_trans hstart (Location.le_of_lt (location.lt_advance char))) hstop
    rw [hidden, hrest, hany]
    by_cases hnewline : char = '\n'
    · simp [blanked, hnewline]
    · simp [blanked, hnewline]

/-! ## Lexing -/

/-- A comment begins with a slash. -/
theorem Lexeme.split_comment {first : Char} {rest text : List Char}
    (h : (split first rest).1 = .comment text) : first = '/' := by
  have hform := split_form first rest
  have hhead := head?_text first rest
  rw [h] at hform hhead
  cases hform with
  | line hinner hrest => exact (Option.some.inj hhead).symm
  | block hopens hfirst =>
    obtain ⟨inner, rfl⟩ := hopens
    exact (Option.some.inj hhead).symm

namespace Lexer

/-- A comment begins with a slash. -/
theorem Lexes.first_of_comment {lexer : Lexer} {gap tail : List Char} {first : Char} {token : Token}
    (hlexes : lexer.Lexes gap first tail) (hitem : lexer.next.item = some (.ok token))
    (hcomment : token.isComment = true) : first = '/' := by
  obtain ⟨text, hlexeme⟩ := (Lexeme.isComment_iff (hlexes.made_of hitem)).1 hcomment
  exact Lexeme.split_comment hlexeme

/-- A lexer gives tokens without an error, and of the spans those that do not lie behind it are of
the comments among the tokens. -/
structure Hides (lexer : Lexer) (tokens : List Token) (spans : List Span) : Prop where
  finished_eq : lexer.finished = false
  result_eq : lexer.takeTokens.result = .ok tokens
  spans_passed : ∀ span ∈ spans, span.stop ≤ lexer.location ∨ span ∈ commentSpans tokens
  spans_ahead : ∀ span ∈ commentSpans tokens, span ∈ spans

/-- What is left in front of a lexer, with the characters blanked that lie in one of the spans. -/
def hiddenRest (lexer : Lexer) (spans : List Span) : List Char :=
  hidden spans lexer.location lexer.cursor.rest

/-- Tokens begin where the lexer is, or further on. -/
theorem location_le_start {lexer : Lexer} {tokens : List Token}
    (hfinished : lexer.finished = false) (hresult : lexer.takeTokens.result = .ok tokens) :
    ∀ token ∈ tokens, lexer.location ≤ token.span.start := by
  induction tokens generalizing lexer with
  | nil => simp
  | cons token tokens ih =>
    obtain ⟨-, hnone⟩ | ⟨_, _, hitem, hrest, heq⟩ := takeTokens_inv hresult
    · cases hnone
    obtain ⟨rfl, rfl⟩ := List.cons.inj heq
    obtain ⟨gap, first, tail, hlexes⟩ := lexes_of_token hfinished hitem
    rw [List.forall_mem_cons, hlexes.span_eq hitem]
    refine ⟨Location.le_advanceOver _ _, fun other hother => ?_⟩
    have hle := ih hlexes.finished_next hrest other hother
    rw [hlexes.location_next] at hle
    exact Location.le_trans (Location.le_advanceOver _ _) hle

/-- Behind the last token nothing is blanked. -/
theorem Hides.hiddenRest_eq {lexer : Lexer} {spans : List Span} (h : lexer.Hides [] spans) :
    lexer.hiddenRest spans = lexer.cursor.rest :=
  hidden_of_outside fun span hspan =>
    .inl <| (h.spans_passed span hspan).resolve_right (by simp [commentSpans])

/-- A lexer passes white space that is kept, and the first of its tokens, which is blanked if it is
a comment. -/
theorem Hides.step {lexer : Lexer} {token : Token} {tokens : List Token} {spans : List Span}
    (h : lexer.Hides (token :: tokens) spans) :
    ∃ gap first tail, lexer.Lexes gap first tail ∧ lexer.next.item = some (.ok token) ∧
      lexer.next.lexer.Hides tokens spans ∧
      lexer.cursor.rest = gap ++ (token.text.toList ++ lexer.next.lexer.cursor.rest) ∧
      lexer.hiddenRest spans = gap ++ (token.shown ++ lexer.next.lexer.hiddenRest spans) := by
  obtain ⟨-, hnone⟩ | ⟨_, _, hitem, hresult, heq⟩ := takeTokens_inv h.result_eq
  · cases hnone
  obtain ⟨rfl, rfl⟩ := List.cons.inj heq
  obtain ⟨gap, first, tail, hlexes⟩ := lexes_of_token h.finished_eq hitem
  have hrest : lexer.cursor.rest = gap ++ (token.text.toList ++ lexer.next.lexer.cursor.rest) := by
    rw [hlexes.rest_eq, hlexes.rest_next, hlexes.text_eq hitem, Lexeme.text_append_rest]
  have hspan := hlexes.span_eq hitem
  have hnext := hlexes.location_next
  rw [← hlexes.text_eq hitem] at hspan hnext
  have hbehind : (lexer.location.advanceOver gap).advanceOver token.text.toList =
      lexer.next.lexer.location := by
    rw [hnext, Location.advanceOver_append]
  rw [← hnext] at hspan
  have hgap : lexer.location ≤ lexer.location.advanceOver gap := Location.le_advanceOver _ _
  have htext : lexer.location.advanceOver gap ≤ lexer.next.lexer.location :=
    hbehind ▸ Location.le_advanceOver _ _
  -- A span lies behind the lexer, is that of this token, or lies behind this token.
  have hspans : ∀ span ∈ spans, span.stop ≤ lexer.location ∨
      (span = token.span ∧ token.isComment = true) ∨ span ∈ commentSpans tokens := by
    intro span hmem
    rcases h.spans_passed span hmem with hpassed | hahead
    · exact .inl hpassed
    · obtain ⟨other, hother, hcomment, rfl⟩ := mem_commentSpans.1 hahead
      rcases List.mem_cons.1 hother with rfl | hother
      · exact .inr (.inl ⟨rfl, hcomment⟩)
      · exact .inr (.inr (mem_commentSpans.2 ⟨other, hother, hcomment, rfl⟩))
  have hlater : ∀ span ∈ commentSpans tokens, lexer.next.lexer.location ≤ span.start := by
    intro span hmem
    obtain ⟨other, hother, -, rfl⟩ := mem_commentSpans.1 hmem
    exact location_le_start hlexes.finished_next hresult other hother
  have hgapKept : hidden spans lexer.location gap = gap := by
    refine hidden_of_outside fun span hmem => ?_
    rcases hspans span hmem with hpassed | ⟨rfl, -⟩ | hahead
    · exact .inl hpassed
    · exact .inr (by rw [hspan]; exact Location.le_refl _)
    · exact .inr (Location.le_trans htext (hlater span hahead))
  have hshown : hidden spans (lexer.location.advanceOver gap) token.text.toList = token.shown := by
    unfold Token.shown
    split
    · next hcomment =>
      have hmem : token.span ∈ spans :=
        h.spans_ahead _ (mem_commentSpans.2 ⟨token, by simp, hcomment, rfl⟩)
      exact hidden_of_inside hmem (by rw [hspan]; exact Location.le_refl _)
        (by rw [hbehind, hspan]; exact Location.le_refl _)
    · next hcomment =>
      refine hidden_of_outside fun span hmem => ?_
      rw [hbehind]
      rcases hspans span hmem with hpassed | ⟨-, hcomment'⟩ | hahead
      · exact .inl (Location.le_trans hpassed hgap)
      · exact absurd hcomment' hcomment
      · exact .inr (hlater span hahead)
  refine ⟨gap, first, tail, hlexes, hitem, ⟨hlexes.finished_next, hresult, ?_, ?_⟩, hrest, ?_⟩
  · intro span hmem
    rcases hspans span hmem with hpassed | ⟨rfl, -⟩ | hahead
    · exact .inl (Location.le_trans hpassed (Location.le_trans hgap htext))
    · exact .inl (by rw [hspan]; exact Location.le_refl _)
    · exact .inr hahead
  · intro span hmem
    obtain ⟨other, hother, hcomment, rfl⟩ := mem_commentSpans.1 hmem
    exact h.spans_ahead _ (mem_commentSpans.2 ⟨other, by simp [hother], hcomment, rfl⟩)
  · rw [hiddenRest, hrest, hidden_append, hidden_append, hbehind, hgapKept, hshown]
    rfl

/-- What is next is kept, unless it is the slash of a comment, which is blanked. -/
theorem Hides.head {lexer : Lexer} {tokens : List Token} {spans : List Span}
    (h : lexer.Hides tokens spans) :
    (lexer.hiddenRest spans).head? = lexer.cursor.rest.head? ∨
      lexer.cursor.rest.head? = some '/' ∧ (lexer.hiddenRest spans).head? = some ' ' := by
  cases tokens with
  | nil => exact .inl (by rw [h.hiddenRest_eq])
  | cons token tokens =>
    obtain ⟨gap, first, tail, hlexes, hitem, -, hrest, hhidden⟩ := h.step
    rw [hrest, hhidden]
    cases gap with
    | cons char gap => exact .inl rfl
    | nil =>
      obtain ⟨inner, htext⟩ := hlexes.exists_text hitem
      rw [Token.shown, htext]
      split
      · next hcomment =>
        obtain rfl := hlexes.first_of_comment hitem hcomment
        exact .inr ⟨rfl, rfl⟩
      · exact .inl rfl

/-- Behind a token, the text with blanked comments can stand for what was there. -/
theorem Hides.border {lexer : Lexer} {tokens : List Token} {spans : List Span}
    (h : lexer.Hides tokens spans) : Border lexer.cursor.rest (lexer.hiddenRest spans) := by
  cases tokens with
  | nil =>
    rw [h.hiddenRest_eq]
    cases lexer.cursor.rest with
    | nil => exact .empty
    | cons char rest => exact .same rfl (.inl rfl)
  | cons token tokens =>
    obtain ⟨gap, first, tail, hlexes, hitem, hnext, hrest, hhidden⟩ := h.step
    rw [hrest, hhidden]
    cases gap with
    | cons char gap => exact .blank (hlexes.blank char (by simp))
    | nil =>
      obtain ⟨inner, htext⟩ := hlexes.exists_text hitem
      rw [Token.shown, htext]
      split
      · next hcomment =>
        obtain rfl := hlexes.first_of_comment hitem hcomment
        exact .blank (by decide)
      · refine .same rfl ?_
        cases inner with
        | cons second inner => exact .inl rfl
        | nil => exact hnext.head

/-- Blanking comments leaves what is ahead as it is: the other tokens in the same places, and the
same end. -/
theorem ahead_of_hides {lexer other : Lexer} {tokens : List Token} {spans : List Span}
    {pad : List Char} (h : lexer.Hides tokens spans) (hother : other.finished = false)
    (hcount : other.metrics.tokens ≤ lexer.metrics.tokens)
    (hpad : ∀ char ∈ pad, isBlank char = true)
    (hrest : other.cursor.rest = pad ++ lexer.hiddenRest spans)
    (hlocation : other.location.advanceOver pad = lexer.location) : other.ahead = lexer.ahead := by
  induction tokens generalizing lexer other pad with
  | nil =>
    rw [h.hiddenRest_eq] at hrest
    obtain ⟨hitem, -⟩ | ⟨_, _, -, -, hcons⟩ := takeTokens_inv h.result_eq
    · have hblank := (item_eq_none_iff h.finished_eq).1 hitem
      have hblank' : ∀ char ∈ other.cursor.rest, isBlank char = true := by
        rw [hrest, List.forall_mem_append]
        exact ⟨hpad, hblank⟩
      rw [ahead_of_blank h.finished_eq hblank, ahead_of_blank hother hblank', hrest,
        Location.advanceOver_append, hlocation]
    · cases hcons
  | cons token tokens ih =>
    obtain ⟨gap, first, tail, hlexes, hitem, hnext, -, hhidden⟩ := h.step
    have htext := hlexes.text_eq hitem
    rw [hhidden] at hrest
    by_cases hcomment : token.isComment = true
    · -- The comment is white space in front of the next token now.
      have hshown : token.shown = blanked token.text.toList := if_pos hcomment
      rw [ahead_of_token hitem, Ahead.push_comment hcomment]
      refine @ih lexer.next.lexer other (pad ++ (gap ++ token.shown)) hnext hother ?_ ?_ ?_ ?_
      · rw [tokens_next_of_token hitem]
        exact Nat.le_succ_of_le hcount
      · rw [hshown]
        simp only [List.forall_mem_append]
        exact ⟨hpad, hlexes.blank, fun _ => isBlank_of_mem_blanked⟩
      · rw [hrest]
        simp
      · rw [hshown, Location.advanceOver_append, hlocation, Location.advanceOver_append,
          advanceOver_blanked, hlexes.location_next, ← htext, Location.advanceOver_append]
    · have hshown : token.shown = token.text.toList := if_neg hcomment
      have hmade := hlexes.made_of hitem
      have hgap : ∀ char ∈ pad ++ gap, isBlank char = true :=
        List.forall_mem_append.2 ⟨hpad, hlexes.blank⟩
      rw [hshown, htext, ← List.append_assoc] at hrest
      have hborder := hnext.border
      rw [hlexes.rest_next] at hborder
      obtain ⟨tail', hlexes', hsplit⟩ := hlexes.replace (Lexeme.closed_of_token hmade) hother
        (Nat.lt_of_le_of_lt hcount hlexes.tokens_lt) hgap hrest hborder fun text hlexeme _ =>
          absurd ((Lexeme.isComment_iff hmade).2 ⟨text, hlexeme⟩) hcomment
      have hstart : other.location.advanceOver (pad ++ gap) = lexer.location.advanceOver gap := by
        rw [Location.advanceOver_append, hlocation]
      have hstop : other.location.advanceOver (pad ++ gap ++ (Lexeme.split first tail).1.text) =
          lexer.next.lexer.location := by
        rw [Location.advanceOver_append, hstart, hlexes.location_next, Location.advanceOver_append]
      have hitem' : other.next.item = some (.ok token) := by
        rw [hlexes'.item_eq, hsplit, hstart, hstop, hlexes.location_next, hmade]
      rw [ahead_of_token hitem, ahead_of_token hitem']
      refine congrArg (Ahead.push · token)
        (@ih lexer.next.lexer other.next.lexer [] hnext hlexes'.finished_next ?_ (by simp) ?_ ?_)
      · rw [tokens_next_of_token hitem, tokens_next_of_token hitem']
        exact Nat.succ_le_succ hcount
      · rw [hlexes'.rest_next, hsplit]
        rfl
      · rw [hlexes'.location_next, hsplit]
        exact hstop

end Lexer

/-- Comments are not seen: with blanks in the place of its comments, a source is parsed to the same
program in the same places, or refused with the same error. -/
theorem parseSource_hideComments (preferences : Preferences) {source : String}
    {tokens : List Token} (h : tokenize preferences.lexical source = .ok tokens) :
    (parseSource preferences (hideComments tokens source)).result =
      (parseSource preferences source).result := by
  have hhides : (Lexer.ofString preferences.lexical source).Hides tokens (commentSpans tokens) :=
    ⟨rfl, h, fun _ hspan => .inr hspan, fun _ hspan => hspan⟩
  have hrest : (Lexer.ofString preferences.lexical (hideComments tokens source)).cursor.rest =
      (Lexer.ofString preferences.lexical source).hiddenRest (commentSpans tokens) :=
    String.toList_ofList
  have hahead := @Lexer.ahead_of_hides _
    (.ofString preferences.lexical (hideComments tokens source)) _ _ [] hhides rfl
    (Nat.le_refl _) (by simp) hrest rfl
  have hlike : (Parser.ofSource preferences (hideComments tokens source)).Like
      (Parser.ofSource preferences source) :=
    ⟨(Parser.ahead_ofLexer _ _ _).trans (hahead.trans (Parser.ahead_ofLexer _ _ _).symm), rfl⟩
  exact hlike.parse.1

/-- Of a comment on two lines only the newline is left, of one at the end of a line nothing. -/
theorem parseSource_hideComments_lines :
    ∃ tokens, tokenize default "x/*\n*/;//y" = .ok tokens ∧
      hideComments tokens "x/*\n*/;//y" = "x  \n  ;   " ∧
      (parseSource default "x  \n  ;   ").result = (parseSource default "x/*\n*/;//y").result := by
  let tokens : List Token :=
    [⟨.identifier, "x", ⟨⟨1, 1⟩, ⟨1, 2⟩⟩⟩, ⟨.comment, "/*\n*/", ⟨⟨1, 2⟩, ⟨2, 3⟩⟩⟩,
      ⟨.symbol .semicolon, ";", ⟨⟨2, 3⟩, ⟨2, 4⟩⟩⟩, ⟨.comment, "//y", ⟨⟨2, 4⟩, ⟨2, 7⟩⟩⟩]
  have htokens : tokenize default "x/*\n*/;//y" = .ok tokens := by
    with_unfolding_all rfl
  have hhidden : hideComments tokens "x/*\n*/;//y" = "x  \n  ;   " := by
    decide +kernel
  refine ⟨tokens, htokens, hhidden, ?_⟩
  rw [← hhidden]
  exact parseSource_hideComments default htokens

end VinylSyntax
