import VinylSyntax.Proofs.Acceptance
import VinylSyntax.Proofs.Checked.Refinement
import VinylSyntax.Proofs.Reading.Progress

/-!
# Parsing again

A parser can be asked to parse again, whatever came of it before. What it answers depends on nothing
but the tokens that are left: productions that an error left behind have no part in it
(`Parser.parse_congr`), and no conditional is open at the beginning of a call. `parsing_resumes`
says for each outcome what is left and what the further calls answer.
-/

namespace VinylSyntax

namespace Parser

variable {parser : Parser}

/-! ## What is left -/

/-- Parsing takes tokens, one behind the other, and leaves the rest. -/
theorem takes_parse (parser : Parser) :
    ∃ taken, parser.tokens.Takes taken parser.parse.2.tokens := by
  obtain ⟨marks, hruns, -⟩ := parser.runs_outcome
  exact ⟨_, parser.tokens_outcome ▸ hruns.takes⟩

/-- However many times a parser is called, it takes tokens off what is left. -/
theorem takes_parseTimes (parser : Parser) (calls : Nat) :
    ∃ taken, parser.tokens.Takes taken (parser.parseTimes calls).2.tokens := by
  induction calls generalizing parser with
  | zero => exact ⟨[], .refl _⟩
  | succ calls ih =>
    obtain ⟨front, hfront⟩ := parser.takes_parse
    obtain ⟨back, hback⟩ := ih parser.parse.2
    exact ⟨front ++ back, hfront.append hback⟩

/-- Behind a program nothing is left, and behind an error what the error is about. -/
theorem left_by_parse (parser : Parser) :
    match parser.parse.1 with
    | .ok _ => parser.parse.2.tokens.pending = none
    | .error error => error.LeftAt parser.parse.2.tokens := by
  obtain ⟨-, -, -, hstops⟩ := Script.program_performs parser
  unfold parse
  cases hresult : Parse.program parser with
  | ok parts behind =>
    show behind.tokens.pending = none
    exact Parse.pending_of_program hresult
  | error error stuck =>
    rw [hresult] at hstops
    exact hstops

/-! ## What parsing depends on -/

/-- If the script of a program runs to a result, parsing ends in it. -/
theorem parse_of_runs {marks : List Mark} {result : Reader.Result (List TopLevel)}
    (h : Script.Runs Script.program 0 ⟨parser.tokens, 0⟩ marks result) :
    parser.parse.1 = result.answer ∧ parser.parse.2.tokens = result.reader.tokens := by
  obtain ⟨_, hruns, -⟩ := parser.runs_outcome
  obtain ⟨-, rfl⟩ := hruns.unique h
  exact ⟨parser.answer_outcome.symm, parser.tokens_outcome.symm⟩

/-- Parsing depends on nothing but the tokens that are left. -/
theorem parse_congr {other : Parser} (h : parser.tokens = other.tokens) :
    parser.parse.1 = other.parse.1 := by
  obtain ⟨marks, hruns, -⟩ := other.runs_outcome
  rw [← h] at hruns
  exact (parse_of_runs hruns).1.trans other.answer_outcome

/-- Where nothing is left, a program without parts is read, and nothing is left again. -/
theorem parse_at_end (h : parser.tokens.pending = none) :
    parser.parse.1 = .ok [] ∧ parser.parse.2.tokens.pending = none := by
  have hskip : Script.Runs Script.skipComments 0 ⟨parser.tokens, 0⟩ [] _ :=
    Script.runs_skipComments_end (Script.runs_peek_end h) (by simp)
  have hend : Script.Runs Script.atEnd 0 ⟨parser.tokens, 0⟩ _ (.ok true ⟨parser.tokens, 0⟩) :=
    .andThen hskip (.andThen (Script.runs_peek_end h) .done)
  obtain ⟨hresult, htokens⟩ := parse_of_runs (.loop_end (.andThen hend .done))
  exact ⟨hresult, htokens ▸ h⟩

/-- Where an error is all that is left, it is the answer, and it is left again. -/
theorem parse_at_error {error : LexicalError} (h : parser.tokens.pending = some (.error error)) :
    parser.parse.1 = .error (.lexical error) ∧
      parser.parse.2.tokens.pending = some (.error error) := by
  have hskip : Script.Runs Script.skipComments 0 ⟨parser.tokens, 0⟩ _ _ :=
    .loop_error (.andThen_error (Script.runs_peek_error h))
  obtain ⟨hresult, htokens⟩ := parse_of_runs (.loop_error (.andThen_error (.andThen_error hskip)))
  exact ⟨hresult, htokens ▸ h⟩

/-- If a call leaves a state in which it gives the same answer, so do all further calls. -/
theorem parseTimes_replicate {holds : Parser → Prop} {answer : Except SyntaxError (List TopLevel)}
    (hparse : ∀ parser, holds parser → parser.parse.1 = answer ∧ holds parser.parse.2)
    (h : holds parser) (calls : Nat) :
    (parser.parseTimes calls).1 = List.replicate calls answer := by
  induction calls generalizing parser with
  | zero => rfl
  | succ calls ih =>
    obtain ⟨hanswer, hbehind⟩ := hparse parser h
    show parser.parse.1 :: (parser.parse.2.parseTimes calls).1 = _
    rw [hanswer, ih hbehind, List.replicate_succ]

/-- The parser of the tokens that a lookahead has left; `earlier` events come first. -/
def ofTokens (preferences : SyntaxPreferences) (tokens : Lookahead) (earlier : List Event) :
    Parser :=
  ⟨tokens, preferences, [], openingEvent preferences :: earlier.reverse⟩

/-- A parser goes on as any fresh one does that has the same tokens left, up to the same ending. -/
theorem parse_ofTokens {tokens : Lookahead} (hsequence : tokens.sequence = parser.tokens.sequence)
    (hending : tokens.ahead.ending = parser.ahead.ending) (preferences : SyntaxPreferences)
    (earlier : List Event) :
    (ofTokens preferences tokens earlier).parse.1 = parser.parse.1 := by
  have hahead : tokens.ahead = parser.ahead := by
    refine Ahead.ext ?_ hending
    rw [ahead, Lookahead.tokens_ahead, Lookahead.tokens_ahead, hsequence]
  have hlike : (ofTokens preferences tokens earlier).Like
      (ofTokens preferences parser.tokens earlier) := ⟨hahead, rfl⟩
  exact hlike.parse.1.trans (parse_congr rfl)

/-! ## What is kept -/

/-- A program is read with no production left behind, and with room for what is left. -/
theorem Safe.parse (h : parser.Safe) :
    parser.parse.2.Safe ∧
      ∀ parts, parser.parse.1 = .ok parts → parser.parse.2.productions = parser.productions := by
  obtain ⟨behind, -, -, hbehind, hsafe, -⟩ := @Tally.parse_eq (.ofParser parser) rfl h
  refine ⟨hbehind ▸ hsafe, fun parts hparts => ?_⟩
  have htracks : Tracks 0 parser.productions (.ofParser parser) parser := ⟨rfl, rfl, h⟩
  unfold Parser.parse at hparts ⊢
  rcases (Checked.program_refines _ _ htracks).inv with
    ⟨_, _, last, -, hresult, -, hlast⟩ | ⟨_, _, error, _, -, hresult, -⟩
  · rw [hresult]
    exact hlast.productions_eq
  · rw [hresult] at hparts
    cases hparts

/-- However many times a safe parser is called, it stays safe. -/
theorem Safe.parseTimes (h : parser.Safe) (calls : Nat) : (parser.parseTimes calls).2.Safe := by
  induction calls generalizing parser with
  | zero => exact h
  | succ calls ih => exact ih h.parse.1

end Parser

/-- What a call is followed by that began in the productions `before` and left the parser `behind`.
Behind a program the productions are what they were, and there and behind the end of input all
further calls read the empty program; behind an error of the lexer they all give that error. A token
that was refused is still there, so that the next call answers as a fresh parser does that has the
same tokens left, from that one on. -/
def Lexer.Resumes (lexer : Lexer) (before : List Production) (behind : Parser) :
    Except SyntaxError (List TopLevel) → Prop
  | .ok _ => behind.productions = before ∧
      ∀ further, (behind.parseTimes further).1 = List.replicate further (.ok [])
  | .error (.unexpectedEnd _ _) =>
      ∀ further, (behind.parseTimes further).1 = List.replicate further (.ok [])
  | .error (.lexical error) => ∀ further,
      (behind.parseTimes further).1 = List.replicate further (.error (.lexical error))
  | .error (.unexpectedToken _ token) => ∃ taken rest,
      lexer.takeTokens.tokens = taken ++ token :: rest ∧
      behind.tokens.peek = .ok (some token) ∧ behind.tokens.sequence = token :: rest ∧
      behind.tokens.ahead.ending = lexer.ahead.ending ∧
      ∀ (fresh : Lookahead) (preferences : SyntaxPreferences) (events : List Event),
        fresh.sequence = token :: rest → fresh.ahead.ending = lexer.ahead.ending →
          (Parser.ofTokens preferences fresh events).parse.1 = behind.parse.1
  | .error (.nestingTooDeep _ _) => True
  | .error (.tooManyArguments _ _ _ _) => True

/-- However often a parser of a source was asked to parse, no conditional is open, and the next call
leaves it in order. -/
theorem parsing_resumes (lexical : LexicalPreferences) (syntactic : SyntaxPreferences)
    (earlier : List Event) {source : String} (h : source.length + 2 ≤ Location.counterRange)
    (calls : Nat) :
    let lexer := Lexer.ofString lexical source
    let parser := Parser.ofLexer syntactic lexer earlier
    let state := (parser.parseTimes calls).2
    (∃ tally, (Tally.ofParser parser).parseTimes calls = .ok ((parser.parseTimes calls).1, tally) ∧
      tally.depth = 0 ∧ tally.parser = state) ∧
    lexer.Resumes state.productions state.parse.2 state.parse.1 := by
  intro lexer parser state
  obtain ⟨-, hsafe⟩ := Parser.ofLexerChecked_eq syntactic (Lexer.roomy_ofString lexical h) earlier
  constructor
  · obtain ⟨tally, htally, hdepth, hparser, -⟩ :=
      @Tally.parseTimes_eq (.ofParser parser) rfl hsafe calls
    exact ⟨tally, htally, hdepth, hparser⟩
  have hleft := state.left_by_parse
  have hproductions := (hsafe.parseTimes calls).parse.2
  cases hresult : state.parse.1 with
  | ok parts =>
    rw [hresult] at hleft
    exact ⟨hproductions parts hresult,
      Parser.parseTimes_replicate (fun _ => Parser.parse_at_end) hleft⟩
  | error error =>
    rw [hresult] at hleft
    cases error with
    | unexpectedEnd expected location =>
      exact Parser.parseTimes_replicate (fun _ => Parser.parse_at_end) hleft
    | lexical error => exact Parser.parseTimes_replicate (fun _ => Parser.parse_at_error) hleft
    | nestingTooDeep depth location => trivial
    | tooManyArguments function count limit location => trivial
    | unexpectedToken expected token =>
      obtain ⟨front, hfront⟩ := parser.takes_parseTimes calls
      obtain ⟨back, hback⟩ := state.takes_parse
      have htakes := hfront.append hback
      have hpending : state.parse.2.tokens.pending = some (.ok token) := hleft
      have hsequence := Lookahead.sequence_read hpending
      have hlexer : parser.tokens.sequence = lexer.takeTokens.tokens :=
        Lookahead.sequence_pending_next lexer false
      have hending : state.parse.2.tokens.ahead.ending = lexer.ahead.ending := by
        rw [← Lookahead.ahead_ofLexer lexer]
        exact (congrArg Ahead.ending htakes.ahead_eq).symm
      refine ⟨front ++ back, _, ?_, by simp [Lookahead.peek, hpending], hsequence, hending, ?_⟩
      · rw [← hlexer, htakes.sequence_eq, hsequence]
      · intro fresh preferences events hfresh hend
        exact Parser.parse_ofTokens (hfresh.trans hsequence.symm) (hend.trans hending.symm)
          preferences events

/-- A declaration is refused at the `if` that stands in the place of a name. The next call reads the
conditional, as a fresh parser of its tokens does. -/
theorem parsing_resumes_conditional :
    "let if x { }".length + 2 ≤ Location.counterRange ∧
    let parser := Parser.ofLexer default (.ofString default "let if x { }") []
    let word : Token := ⟨.keyword .ifWord, "if", ⟨⟨1, 5⟩, ⟨1, 7⟩⟩⟩
    let name : Token := ⟨.identifier, "x", ⟨⟨1, 8⟩, ⟨1, 9⟩⟩⟩
    parser.parse.1 = .error (.unexpectedToken .variableName word) ∧
    parser.parse.2.tokens.peek = .ok (some word) ∧
    (Parser.ofTokens default parser.parse.2.tokens []).parse.1 =
      .ok [.statement (.conditional (.identifier ⟨name⟩) [] [])] ∧
    parser.parse.2.parse.1 = .ok [.statement (.conditional (.identifier ⟨name⟩) [] [])] := by
  have hlength : "let if x { }".length + 2 ≤ Location.counterRange := by decide
  have hresult : (Parser.ofLexer default (.ofString default "let if x { }") []).parse.1 =
      .error (.unexpectedToken .variableName ⟨.keyword .ifWord, "if", ⟨⟨1, 5⟩, ⟨1, 7⟩⟩⟩) := by
    with_unfolding_all rfl
  have hnext : (Parser.ofLexer default (.ofString default "let if x { }") []).parse.2.parse.1 =
      .ok [.statement (.conditional
        (.identifier ⟨⟨.identifier, "x", ⟨⟨1, 8⟩, ⟨1, 9⟩⟩⟩⟩) [] [])] := by
    with_unfolding_all rfl
  obtain ⟨-, hresumes⟩ := parsing_resumes default default [] hlength 0
  simp only [Parser.parseTimes, hresult] at hresumes
  obtain ⟨taken, rest, -, hpeek, hsequence, hending, hfresh⟩ := hresumes
  exact ⟨hlength, hresult, hpeek, (hfresh _ _ _ hsequence hending).trans hnext, hnext⟩

end VinylSyntax
