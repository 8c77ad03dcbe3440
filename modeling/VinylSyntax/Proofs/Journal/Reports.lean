import VinylSyntax.Proofs.Counting
import VinylSyntax.Proofs.Keeping
import VinylSyntax.Proofs.Reading.Resuming

/-!
# Reports

The lexer reports the end of the text and each error as soon as it gets there, which is one token
ahead of the parser, and the parser reports how parsing ended. So what is told besides debugging is
one report of the lexer, depending on what the lookahead holds at the end (`Lookahead.report`), and
one of the parser behind it: see `events_parseSource`. What is held at the end also tells how
lexing the source ends.
-/

namespace VinylSyntax

/-! ## Events that are told -/

/-- The events that are not for debugging. -/
def told (events : List Event) : List Event := events.filter fun event => !event.isDebug

/-- Of no events, none are told. -/
@[simp] theorem told_nil : told [] = [] := rfl

/-- Of events behind one another, those are told that are told of each. -/
theorem told_append (events more : List Event) : told (events ++ more) = told events ++ told more :=
  List.filter_append _ _

/-- Of events in reverse, those are told in reverse that are told of them. -/
theorem told_reverse (events : List Event) : told events.reverse = (told events).reverse :=
  List.filter_reverse

/-- An event for debugging is not told. -/
theorem told_cons_of_debug {event : Event} (h : event.isDebug = true) (events : List Event) :
    told (event :: events) = told events :=
  List.filter_cons_of_neg (by simp [h])

/-- Every other event is told. -/
theorem told_cons_of_not_debug {event : Event} (h : event.isDebug = false) (events : List Event) :
    told (event :: events) = event :: told events :=
  List.filter_cons_of_pos (by simp [h])

/-- A trace is an event for debugging. -/
theorem Event.Traces.isDebug {event : Event} (h : event.Traces) : event.isDebug = true := by
  rw [Event.isDebug, h.level_eq]
  rfl

/-! ## Reports of the lexer -/

/-- What the lexer told when it gave what a lookahead holds: nothing of a token. -/
def Lookahead.report (lookahead : Lookahead) : List Event :=
  match lookahead.pending with
  | none => [Lexer.completionEvent lookahead.lexer.metrics]
  | some (.error error) => [Lexer.errorEvent error]
  | some (.ok _) => []

/-- What is reported at the end is one event or none, and so the same in reverse. -/
theorem Lookahead.reverse_report (lookahead : Lookahead) :
    lookahead.report.reverse = lookahead.report := by
  unfold report
  split <;> rfl

namespace Lexer

variable {lexer : Lexer}

/-- A step over a lexeme reports just an error. -/
theorem report_settle (lexer : Lexer) (item : Item) (errorGiven : Bool) :
    told (lexer.settle item).events =
        Lookahead.report ⟨(lexer.settle item).lexer, some item, errorGiven⟩ ∧
      ∀ event ∈ (lexer.settle item).events, event.isDebug = true → event.Traces := by
  cases item with
  | ok token =>
    simp only [settle, produce]
    split
    · exact ⟨told_cons_of_debug rfl [], List.forall_mem_singleton.2 fun _ => ⟨rfl, rfl⟩⟩
    · exact ⟨rfl, List.forall_mem_nil _⟩
  | error error =>
    refine ⟨told_cons_of_not_debug rfl [], List.forall_mem_singleton.2 fun h => ?_⟩
    cases h

/-- What a step tells is the report on the item that it gives. -/
theorem report_next (hfinished : lexer.finished = false) (errorGiven : Bool) :
    told lexer.next.events =
        Lookahead.report ⟨lexer.next.lexer, lexer.next.item, errorGiven⟩ ∧
      ∀ event ∈ lexer.next.events, event.isDebug = true → event.Traces := by
  rcases step_cases hfinished with ⟨hnext, -⟩ | ⟨_, _, hnext, -, -⟩ | ⟨_, _, hnext, -, -, -⟩
  · rw [hnext]
    refine ⟨told_cons_of_not_debug rfl [], List.forall_mem_singleton.2 fun h => ?_⟩
    cases h
  · rw [hnext]
    refine ⟨told_cons_of_not_debug rfl [], List.forall_mem_singleton.2 fun h => ?_⟩
    cases h
  · rw [hnext, lex, item_settle]
    exact report_settle _ _ errorGiven

/-- Behind a token, a lexer has not finished. -/
theorem finished_of_token {token : Token} (h : lexer.next.item = some (.ok token)) :
    lexer.next.lexer.finished = false := by
  rw [← Bool.not_eq_true, ← ends_iff_finished]
  rintro (hnone | ⟨_, _, hrefused⟩)
  · simp [h] at hnone
  · simp [h] at hrefused

end Lexer

/-! ## Reports of the parser -/

namespace Parser

/-- What a parser told so far is what the lexer told of the item that the lookahead holds. -/
structure Tells (parser : Parser) : Prop where
  told_eq : told parser.logged = parser.tokens.report
  traces : ∀ event ∈ parser.logged, event.isDebug = true → event.Traces
  unfinished : ∀ token, parser.tokens.pending = some (.ok token) →
    parser.tokens.lexer.finished = false

/-- That a parser tells the events of its lexer does not depend on productions and traces, and is
kept behind a token. -/
theorem tells_steady : Steady Tells where
  produces parser productions h := ⟨h.told_eq, h.traces, h.unfinished⟩
  traces parser event hevent h := by
    refine ⟨(told_cons_of_debug hevent.isDebug _).trans h.told_eq, ?_, h.unfinished⟩
    exact List.forall_mem_cons.2 ⟨fun _ => hevent, h.traces⟩
  takes parser token hpending h := by
    obtain ⟨hreport, htraces⟩ :=
      Lexer.report_next (h.unfinished token hpending) parser.tokens.errorGiven
    -- Of the token that is taken nothing was told, so the report on the next item is all there is.
    have hnothing : told parser.logged = [] := by
      rw [h.told_eq, Lookahead.report, hpending]
    have htokens : parser.behindToken.tokens =
        ⟨parser.tokens.lexer.next.lexer, parser.tokens.lexer.next.item,
          parser.tokens.errorGiven⟩ := by
      simp only [behindToken, Lookahead.read, hpending]
    have hlogged : parser.behindToken.logged =
        parser.tokens.lexer.next.events.reverse ++ parser.logged := by
      simp only [behindToken, Lookahead.read, hpending]
    refine ⟨?_, ?_, ?_⟩
    · rw [hlogged, told_append, hnothing, List.append_nil, told_reverse, hreport, htokens,
        Lookahead.reverse_report]
    · rw [hlogged]
      refine List.forall_mem_append.2 ⟨fun event hmem => ?_, h.traces⟩
      exact htraces event (List.mem_reverse.1 hmem)
    · rw [htokens]
      exact fun token => Lexer.finished_of_token

/-- A new parser has told what the lexer told of the first item. -/
theorem tells_ofLexer (preferences : SyntaxPreferences) {lexer : Lexer} {earlier : List Event}
    (hfinished : lexer.finished = false) (hearlier : ∀ event ∈ earlier, event.Traces) :
    (Parser.ofLexer preferences lexer earlier).Tells := by
  obtain ⟨hreport, htraces⟩ := Lexer.report_next hfinished false
  have hlogged : (Parser.ofLexer preferences lexer earlier).logged =
      openingEvent preferences ::
        ((Lexer.openingEvent lexer.preferences :: lexer.next.events).reverse ++
          earlier.reverse) := rfl
  have hsilent : told earlier.reverse = [] := by
    refine List.filter_eq_nil_iff.2 fun event hmem => ?_
    simp [(hearlier event (List.mem_reverse.1 hmem)).isDebug]
  refine ⟨?_, ?_, fun token => Lexer.finished_of_token⟩
  · rw [hlogged, told_cons_of_debug rfl, told_append, hsilent, List.append_nil, told_reverse,
      told_cons_of_debug rfl, hreport, Lookahead.reverse_report]
    rfl
  · rw [hlogged]
    refine List.forall_mem_cons.2 ⟨fun _ => ⟨rfl, rfl⟩, List.forall_mem_append.2 ⟨?_, ?_⟩⟩
    · refine fun event hmem => ?_
      rcases List.mem_cons.1 (List.mem_reverse.1 hmem) with rfl | hmem
      · exact fun _ => ⟨rfl, rfl⟩
      · exact htraces event hmem
    · exact fun event hmem _ => hearlier event (List.mem_reverse.1 hmem)

/-- The event of how parsing ended. -/
def closingEvent (parser : Parser) : Except SyntaxError (List TopLevel) → Event
  | .ok parts => parser.completionEvent parts
  | .error error => parser.errorEvent error

/-- The event at the end of parsing is not for debugging. -/
theorem isDebug_closingEvent (parser : Parser) (result : Except SyntaxError (List TopLevel)) :
    (parser.closingEvent result).isDebug = false := by
  cases result <;> rfl

/-- Parsing adds one event to what was told, the report on how it ended. -/
theorem logged_parse {parser : Parser} (h : parser.Tells) :
    ∃ behind : Parser, behind.Tells ∧ behind.tokens = parser.parse.2.tokens ∧
      parser.parse.2.logged = behind.closingEvent parser.parse.1 :: behind.logged := by
  have hkeeps := Parse.program_composed.keeps tells_steady
  unfold parse
  cases hresult : Parse.program parser with
  | ok parts behind => exact ⟨behind, hkeeps.of_ok h hresult, rfl, rfl⟩
  | error error stuck => exact ⟨stuck, hkeeps.of_error h hresult, rfl, rfl⟩

end Parser

/-! ## What the lexer came to -/

namespace Lookahead

variable {lexer : Lexer} {preferences : LexicalPreferences} {source : String} {count : Nat}
  {given : Bool} {lookahead : Lookahead}

/-- Taking tokens one behind the other hands them out. -/
theorem Takes.holds {last : Lookahead} {tokens : List Token} (h : lookahead.Takes tokens last)
    (hfirst : Holds lexer count given lookahead) :
    Holds lexer (count + tokens.length) given last := by
  induction h generalizing count with
  | refl => exact hfirst
  | @cons _ _ token tokens hpending _ ih =>
    rw [List.length_cons, Nat.add_comm tokens.length, ← Nat.add_assoc]
    exact ih (hfirst.read hpending)

/-- Where no token is held, all tokens were handed out, and what is held tells how the lexer
ended. -/
theorem Holds.count_eq (h : Holds lexer count given lookahead)
    (hpending : ∀ token, lookahead.pending ≠ some (.ok token)) :
    count = lexer.takeTokens.tokens.length ∧
      lookahead.pending = lexer.takeTokens.failure.map .error := by
  obtain rfl : count = lexer.takeTokens.tokens.length := by
    refine Nat.le_antisymm h.count_le (Nat.le_of_not_lt fun hlt => ?_)
    exact hpending _ (h.pending_eq.trans (Lexer.item_after_of_lt hlt))
  exact ⟨rfl, h.pending_eq.trans Lexer.item_after_length⟩

/-- Where nothing is held, the tokens of the source are all that was counted. -/
theorem Holds.tokenize_of_end (h : Holds (.ofString preferences source) count given lookahead)
    (hpending : lookahead.pending = none) :
    ∃ tokens, tokenize preferences source = .ok tokens ∧
      lookahead.lexer.metrics.Account preferences (tokens.map .ok) := by
  obtain ⟨hcount, hfailure⟩ := h.count_eq (by simp [hpending])
  have hnone : (Lexer.ofString preferences source).takeTokens.failure = none := by
    simpa [hpending] using hfailure
  have htokenize : tokenize preferences source =
      .ok (Lexer.ofString preferences source).takeTokens.tokens := by
    rw [tokenize, Lexer.Tokens.result, hnone]
  refine ⟨_, htokenize, ?_⟩
  have haccount := (Lexer.account_after preferences source (count + 1)).2
  rw [Lexer.itemsWithin_eq_take, (tokenize_eq_ok_iff _ _ _).1 htokenize,
    List.take_of_length_le (by simp [hcount])] at haccount
  rw [h.lexer_eq]
  exact haccount

/-- Where an error is held, it is the first one of the source. -/
theorem Holds.tokenize_of_error (h : Holds (.ofString preferences source) count given lookahead)
    {error : LexicalError} (hpending : lookahead.pending = some (.error error)) :
    tokenize preferences source = .error error := by
  obtain ⟨-, hfailure⟩ := h.count_eq (by simp [hpending])
  have hsome : (Lexer.ofString preferences source).takeTokens.failure = some error := by
    simpa [hpending, eq_comm] using hfailure
  rw [tokenize, Lexer.Tokens.result, hsome]

end Lookahead

/-! ## Parsing a source -/

/-- What is told of a source: in front of the report on how parsing ended, what the lexer told of
the item that is held then. -/
theorem events_parseSource (preferences : Preferences) (source : String) :
    ∃ (behind : Parser) (count : Nat),
      Lookahead.Holds (.ofString preferences.lexical source) count false behind.tokens ∧
      (match (parseSource preferences source).result with
        | .ok _ => behind.tokens.pending = none
        | .error error => error.LeftAt behind.tokens) ∧
      (∃ front, (parseSource preferences source).events =
        front ++ [behind.closingEvent (parseSource preferences source).result]) ∧
      told (parseSource preferences source).events =
        behind.tokens.report ++ [behind.closingEvent (parseSource preferences source).result] ∧
      ∀ event ∈ (parseSource preferences source).events, event.isDebug = true → event.Traces := by
  have htells : (Parser.ofSource preferences source).Tells :=
    Parser.tells_ofLexer _ rfl (List.forall_mem_singleton.2 ⟨rfl, rfl⟩)
  obtain ⟨behind, hbehind, htokens, hlogged⟩ := Parser.logged_parse htells
  obtain ⟨taken, htaken⟩ := (Parser.ofSource preferences source).takes_parse
  have hleft := (Parser.ofSource preferences source).left_by_parse
  rw [← htokens] at htaken hleft
  have hclosing := behind.isDebug_closingEvent (parseSource preferences source).result
  have hevents : (parseSource preferences source).events = behind.logged.reverse ++
      [behind.closingEvent (parseSource preferences source).result] := by
    show (Parser.ofSource preferences source).parse.2.logged.reverse = _
    rw [hlogged, List.reverse_cons]
    rfl
  refine ⟨behind, _, htaken.holds (Lookahead.holds_ofLexer _), hleft, ⟨_, hevents⟩, ?_, ?_⟩
  · rw [hevents, told_append, told_reverse, hbehind.told_eq, Lookahead.reverse_report,
      told_cons_of_not_debug hclosing, told_nil]
  · rw [hevents]
    refine List.forall_mem_append.2 ⟨fun event hmem => ?_, List.forall_mem_singleton.2 ?_⟩
    · exact hbehind.traces event (List.mem_reverse.1 hmem)
    · exact fun hdebug => absurd hdebug (by simp [hclosing])

end VinylSyntax
