import VinylSyntax.Journal.Session
import VinylSyntax.Proofs.Journal.Reports

/-!
# What is logged about a parse

In a session with a service, the events of a parse are delivered to the sinks of the service as far
as its level lets them through. With a service for all levels, what is delivered says how lexing and
parsing ended: see `parse_reports`.
-/

namespace VinylSyntax

/-! ## Contexts -/

namespace Context

/-- The value under a name. -/
def get? (context : Context) (key : String) : Option String := context.pairs.lookup key

/-- A pair in front is found by its name, and every other name is looked up behind it. -/
theorem lookup_pair (name held other : String) (pairs : List (String × String)) :
    ((name, held) :: pairs).lookup other =
      if other = name then some held else pairs.lookup other := by
  by_cases heq : other = name
  · rw [if_pos heq, List.lookup_cons, beq_iff_eq.2 heq]
  · rw [if_neg heq, List.lookup_cons, beq_false_of_ne heq]

/-- A value that was put in is found by its key, and every other key as before. -/
theorem lookup_insertPair (key value other : String) (pairs : List (String × String)) :
    (insertPair key value pairs).lookup other =
      if other = key then some value else pairs.lookup other := by
  induction pairs with
  | nil => exact lookup_pair key value other []
  | cons pair pairs ih =>
    obtain ⟨name, held⟩ := pair
    unfold insertPair
    split
    · next heq =>
      subst heq
      simp only [lookup_pair]
      split <;> rfl
    · next hne =>
      split
      · exact lookup_pair key value other _
      · rw [lookup_pair, lookup_pair, ih]
        by_cases hother : other = key
        · subst hother
          simp [hne]
        · rw [if_neg hother, if_neg hother]

/-- A value that was put into a context is found by its key, and every other key as before. -/
@[simp] theorem get?_insert (context : Context) (key value other : String) :
    (context.insert key value).get? other =
      if other = key then some value else context.get? other :=
  lookup_insertPair key value other context.pairs

/-- An empty context holds no key. -/
@[simp] theorem get?_empty (key : String) : empty.get? key = none := rfl

end Context

/-! ## What events say -/

namespace Event

/-- An event says that lexing is complete, and how many tokens and comments there are. -/
structure CompletesLexing (event : Event) (tokens : List Token) : Prop where
  level_eq : event.level = .info
  code_eq : event.code = .lexingComplete
  tokens_eq : event.context.get? "total_tokens" = some (toString tokens.length)
  comments_eq : event.context.get? "comments" =
    some (toString (TokenSort.comment.among tokens).length)
  errors_eq : event.context.get? "errors" = some "0"

/-- An event says that parsing is complete, and how many parts and tokens there are. -/
structure CompletesParsing (event : Event) (parts : List TopLevel) (tokens : List Token) :
    Prop where
  level_eq : event.level = .info
  code_eq : event.code = .parsingComplete
  parts_eq : event.context.get? "top_level_nodes" = some (toString parts.length)
  tokens_eq : event.context.get? "tokens" = some (toString tokens.length)

/-- An event is the error of a code about a stretch of source, with a message that is cut where it
is too long. -/
structure ReportsError (event : Event) (code : Code) (span : Span) (message : String) : Prop where
  level_eq : event.level = .error
  code_eq : event.code = code
  span_eq : event.span = some span
  message_eq : event.message =
    if message.length ≤ Limits.messageLength then message
    else String.ofList (message.toList.take Limits.messageLength) ++ "..."

end Event

/-- What the lexer reports of a source while that is parsed: nothing before the end, the end, or the
first error. -/
inductive Lexer.Reports (preferences : LexicalPreferences) (source : String) :
    List Event → Prop where
  | nothing : Reports preferences source []
  | complete {tokens : List Token} {event : Event}
      (htokens : tokenize preferences source = .ok tokens) (hevent : event.CompletesLexing tokens) :
      Reports preferences source [event]
  | failure {error : LexicalError} {event : Event}
      (herror : tokenize preferences source = .error error)
      (hevent : event.ReportsError error.code error.span error.message) :
      Reports preferences source [event]

/-- The event of an error of the lexer tells its code, its span and its message. -/
theorem Lexer.errorEvent_reports (error : LexicalError) :
    (errorEvent error).ReportsError error.code error.span error.message :=
  ⟨rfl, rfl, rfl, rfl⟩

/-- The event of an error of the parser tells its code, its span and its message. -/
theorem Parser.errorEvent_reports (parser : Parser) (error : SyntaxError) :
    (parser.errorEvent error).ReportsError error.code error.span error.message :=
  ⟨rfl, rfl, rfl, rfl⟩

/-- At the end of a source, the lexer reports the counts of its tokens. -/
theorem Lexer.completionEvent_completes {metrics : Metrics} {preferences : LexicalPreferences}
    {tokens : List Token} (h : metrics.Account preferences (tokens.map .ok))
    (hdetailed : preferences.detailedMetrics = true) :
    (completionEvent metrics).CompletesLexing tokens := by
  have htokens : metrics.tokens = tokens.length := by rw [h.tokens_eq, tokensOf_map_ok]
  have herrors : metrics.errors = 0 := by rw [h.errors_eq, errorsOf_map_ok, List.length_nil]
  have hcomments : metrics.comments = (TokenSort.comment.among tokens).length := by
    have hcount := h.count_eq .comment
    rwa [tokensOf_map_ok, LexicalPreferences.detailed, if_pos hdetailed] at hcount
  refine ⟨rfl, rfl, ?_, ?_, ?_⟩
  all_goals
    simp [completionEvent, Event.withContext, Event.success, Event.plain, htokens, herrors,
      hcomments]
  rfl

/-- The event of a parser that is done tells how many parts and tokens there are. -/
theorem Parser.completionEvent_completes {parser : Parser} {parts : List TopLevel}
    {tokens : List Token} (h : parser.tokens.lexer.metrics.tokens = tokens.length) :
    (parser.completionEvent parts).CompletesParsing parts tokens := by
  refine ⟨rfl, rfl, ?_, ?_⟩ <;>
    simp [completionEvent, Event.withContext, Event.success, Event.plain, Lexer.tokenCount, h]

/-- No error has the code of a parser that is done. -/
theorem SyntaxError.code_ne_parsingComplete (error : SyntaxError) :
    error.code ≠ .parsingComplete := by
  rcases error with _ | _ | _ | _ | (⟨_ | _ | _ | _ | _ | _, _, _⟩ | _ | _ | _ | _) <;>
    simp [SyntaxError.code, LexicalError.code, TokenError.code, Code.parsingComplete] <;> decide

/-- No event of the lexer has the code of a parser that is done. -/
theorem Lexer.Reports.code_ne_parsingComplete {preferences : LexicalPreferences} {source : String}
    {events : List Event} (h : Reports preferences source events) :
    ∀ event ∈ events, event.code ≠ .parsingComplete := by
  cases h with
  | nothing => exact List.forall_mem_nil _
  | complete _ hevent =>
    refine List.forall_mem_singleton.2 ?_
    rw [hevent.code_eq]
    decide
  | @failure error _ _ hevent =>
    refine List.forall_mem_singleton.2 ?_
    rw [hevent.code_eq]
    exact (SyntaxError.lexical error).code_ne_parsingComplete

/-- Where what is told has a code nowhere, nothing has it but events for debugging. -/
theorem code_ne_of_told {events : List Event} {code : Code} (hcode : code ≠ .debugging)
    (htraces : ∀ event ∈ events, event.isDebug = true → event.Traces)
    (htold : ∀ event ∈ told events, event.code ≠ code) : ∀ event ∈ events, event.code ≠ code := by
  intro event hmem
  cases hdebug : event.isDebug with
  | true =>
    rw [(htraces event hmem hdebug).code_eq]
    exact hcode.symm
  | false => exact htold event (List.mem_filter.2 ⟨hmem, by simp [hdebug]⟩)

/-- What the lexer told when a parser stopped, and how that fits what the lookahead holds. -/
theorem Lookahead.Holds.reports {preferences : LexicalPreferences} {source : String} {count : Nat}
    {given : Bool} {lookahead : Lookahead}
    (h : Holds (.ofString preferences source) count given lookahead)
    (hdetailed : preferences.detailedMetrics = true) :
    Lexer.Reports preferences source lookahead.report := by
  unfold report
  split
  · next hpending =>
    obtain ⟨tokens, htokens, haccount⟩ := h.tokenize_of_end hpending
    exact .complete htokens (Lexer.completionEvent_completes haccount hdetailed)
  · next error hpending =>
    exact .failure (h.tokenize_of_error hpending) (Lexer.errorEvent_reports error)
  · exact .nothing

/-- What the lexer has reported when parsing a source failed with an error: the same error if that
is a lexical one, and none if a token or the end of input was refused. -/
def SyntaxError.ReportedBehind (preferences : LexicalPreferences) (source : String)
    (before : List Event) : SyntaxError → Prop
  | .lexical first => tokenize preferences source = .error first ∧
    ∃ report, before = [report] ∧ report.ReportsError first.code first.span first.message
  | .unexpectedToken _ _ => before = []
  | .unexpectedEnd _ _ => ∃ tokens report, tokenize preferences source = .ok tokens ∧
    before = [report] ∧ report.CompletesLexing tokens
  | .nestingTooDeep _ _ => True
  | .tooManyArguments _ _ _ _ => True

/-- The lexer is one item ahead of the parser, so it has reported the item that an error is about,
and nothing behind that. -/
theorem Lookahead.Holds.reportedBehind {preferences : LexicalPreferences} {source : String}
    {count : Nat} {given : Bool} {lookahead : Lookahead}
    (h : Holds (.ofString preferences source) count given lookahead)
    (hdetailed : preferences.detailedMetrics = true) {error : SyntaxError}
    (hleft : error.LeftAt lookahead) :
    error.ReportedBehind preferences source lookahead.report := by
  cases error with
  | lexical first =>
    have hpending : lookahead.pending = some (.error first) := hleft
    rw [report, hpending]
    exact ⟨h.tokenize_of_error hpending, _, rfl, Lexer.errorEvent_reports first⟩
  | unexpectedToken expected token =>
    have hpending : lookahead.pending = some (.ok token) := hleft
    rw [report, hpending]
    rfl
  | unexpectedEnd expected location =>
    have hpending : lookahead.pending = none := hleft
    obtain ⟨tokens, htokens, haccount⟩ := h.tokenize_of_end hpending
    rw [report, hpending]
    exact ⟨tokens, _, htokens, rfl, Lexer.completionEvent_completes haccount hdetailed⟩
  | nestingTooDeep | tooManyArguments => trivial

/-! ## Sessions -/

namespace Session

/-- Whether an event reaches the sinks of the service: it is made, and its level is let through. -/
def admits (session : Session) (event : Event) : Bool :=
  session.makes event && session.service.any fun service => service.passes event.level

/-- Hands an event to the sinks of the service, whatever its level. -/
def deliver (session : Session) (event : Event) : Session :=
  match session.service with
  | none => session
  | some service =>
    let (fan, lines) := service.fan.accept event
    { session with service := some { service with fan := fan } }.write lines

/-- Writing nothing leaves a session as it is. -/
theorem write_nil (session : Session) : session.write [] = session := by
  simp [write]

/-- Logging an event delivers it, or does nothing. -/
theorem log_eq (session : Session) (event : Event) :
    session.log event = if session.admits event then session.deliver event else session := by
  unfold log record admits deliver
  by_cases hmakes : session.makes event = true
  · cases hservice : session.service with
    | none => simp [hmakes]
    | some service =>
      by_cases hpasses : service.passes event.level = true
      · simp [Service.log, hmakes, hpasses]
      · have hsame : { session with service := some service } = session := by rw [← hservice]
        simp [Service.log, hmakes, hpasses, hsame, write_nil]
  · simp [hmakes]

/-- Delivering an event does not change which events are delivered. -/
theorem admits_deliver (session : Session) (event : Event) :
    (session.deliver event).admits = session.admits := by
  unfold deliver
  cases hservice : session.service with
  | none => rfl
  | some service =>
    funext other
    simp [admits, hservice, write, makes, preferences, Service.passes]

/-- Logging events delivers those that reach the sinks, in order. -/
theorem logAll_eq (session : Session) (events : List Event) :
    session.logAll events = (events.filter session.admits).foldl deliver session := by
  induction events generalizing session with
  | nil => rfl
  | cons event events ih =>
    show (session.log event).logAll events = _
    rw [log_eq]
    by_cases hadmits : session.admits event = true
    · rw [if_pos hadmits, ih, admits_deliver, List.filter_cons_of_pos hadmits, List.foldl_cons]
    · rw [if_neg hadmits, ih, List.filter_cons_of_neg hadmits]

variable {session : Session} {service : Service}

/-- A service that lets all levels through is given every event that is not for debugging. -/
theorem admits_of_not_debug (hservice : session.service = some service)
    (hleast : service.least = .debug) {event : Event} (h : event.isDebug = false) :
    session.admits event = true := by
  have hpasses : service.passes event.level = true := by
    rw [Service.passes, hleast]
    cases event.level <;> rfl
  simp [admits, makes, h, hservice, hpasses]

/-- Such a service is given all that is told. -/
theorem told_filter_admits (hservice : session.service = some service)
    (hleast : service.least = .debug) (events : List Event) :
    told (events.filter session.admits) = told events := by
  rw [told, told, List.filter_filter]
  refine List.filter_congr fun event _ => ?_
  cases hdebug : event.isDebug with
  | true => rfl
  | false => simp [admits_of_not_debug hservice hleast hdebug]

/-- Without variables and without a choice of debugging, no events for debugging are made. -/
theorem isDebug_of_admits (hunset : session.environment.get? Environment.leastLevel = none)
    (hchosen : ∀ chosen ∈ session.chosen, chosen.leastLevel ≠ .debug) {event : Event}
    (h : session.admits event = true) : event.isDebug = false := by
  have hlevel : session.preferences.leastLevel ≠ .debug := by
    unfold preferences
    cases hset : session.chosen with
    | none => simp [LoggingPreferences.ofEnvironment, hunset]
    | some chosen => exact hchosen chosen hset
  have hpasses : Level.debug.passes session.preferences.leastLevel = false := by
    cases hleast : session.preferences.leastLevel with
    | debug => exact absurd hleast hlevel
    | error | warning | info => rfl
  rw [admits, Bool.and_eq_true] at h
  simpa [makes, hpasses] using h.1

end Session

/-- With a service that lets all levels through and no variables set, the events of a parse are
delivered in order. Those for debugging have a code of their own, and without a choice of debugging
there are none. Behind a program, what is told is that lexing is complete, with the counts of the
tokens, and that parsing is. Behind an error, the last event reports the error, and in front of it
is told at most one thing: the end of the text, or the first lexical error, which is there if it is
what parsing failed with, and is not there if a token or the end of input was refused. -/
theorem parse_reports (session : Session) (source : String) {service : Service}
    (hservice : session.service = some service) (hleast : service.least = .debug)
    (hunset : ∀ name ∈ Environment.names, session.environment.get? name = none) :
    let preferences := session.readingPreferences
    let logged := (parseSource preferences source).events.filter session.admits
    (session.parse source).2 = logged.foldl Session.deliver session ∧
      (∀ event ∈ logged, event.isDebug = true → event.Traces) ∧
      ((∀ chosen ∈ session.chosen, chosen.leastLevel ≠ .debug) → told logged = logged) ∧
      match (session.parse source).1 with
      | .ok parts => ∃ tokens complete parsed,
        tokenize preferences.lexical source = .ok tokens ∧ told logged = [complete, parsed] ∧
          complete.CompletesLexing tokens ∧ parsed.CompletesParsing parts tokens
      | .error error => ∃ before last,
        told logged = before ++ [last] ∧ logged.getLast? = some last ∧
          last.ReportsError error.code error.span error.message ∧
          (∀ event ∈ logged, event.code ≠ .parsingComplete) ∧
          Lexer.Reports preferences.lexical source before ∧
          error.ReportedBehind preferences.lexical source before := by
  intro preferences logged
  obtain ⟨behind, count, hholds, hleft, ⟨front, hevents⟩, htold, htraces⟩ :=
    events_parseSource preferences source
  have hdetailed : preferences.lexical.detailedMetrics = true := by
    have hnone := hunset Environment.detailedMetrics (by simp [Environment.names])
    show session.environment.flag Environment.detailedMetrics true = true
    rw [Environment.flag, hnone]
  have hdebugging : ∀ event ∈ logged, event.isDebug = true → event.Traces :=
    fun event hmem => htraces event (List.mem_filter.1 hmem).1
  rw [← Session.told_filter_admits hservice hleast] at htold
  refine ⟨session.logAll_eq _, hdebugging, fun hchosen => ?_, ?_⟩
  · have hleastLevel := hunset Environment.leastLevel (by simp [Environment.names])
    refine List.filter_eq_self.2 fun event hmem => ?_
    rw [Session.isDebug_of_admits hleastLevel hchosen (List.mem_filter.1 hmem).2]
    rfl
  · have hresult : (session.parse source).1 = (parseSource preferences source).result := rfl
    rw [hresult]
    cases hparsed : (parseSource preferences source).result with
    | ok parts =>
      rw [hparsed] at hleft htold
      obtain ⟨tokens, htokens, haccount⟩ := hholds.tokenize_of_end hleft
      have hcount : behind.tokens.lexer.metrics.tokens = tokens.length := by
        rw [haccount.tokens_eq, tokensOf_map_ok]
      rw [Lookahead.report, hleft] at htold
      exact ⟨tokens, _, _, htokens, htold, Lexer.completionEvent_completes haccount hdetailed,
        Parser.completionEvent_completes hcount⟩
    | error error =>
      rw [hparsed] at hleft htold hevents
      have hreports := hholds.reports hdetailed
      refine ⟨_, _, htold, ?_, Parser.errorEvent_reports behind error, ?_, hreports,
        hholds.reportedBehind hdetailed hleft⟩
      · have hadmitted : session.admits (behind.closingEvent (.error error)) = true :=
          session.admits_of_not_debug hservice hleast (behind.isDebug_closingEvent _)
        show (List.filter session.admits (parseSource preferences source).events).getLast? = _
        rw [hevents, List.filter_append, List.filter_cons_of_pos hadmitted, List.filter_nil,
          List.getLast?_concat]
      · refine code_ne_of_told (by decide) hdebugging ?_
        show ∀ event ∈ told (List.filter _ _), _
        rw [htold]
        exact List.forall_mem_append.2 ⟨hreports.code_ne_parsingComplete,
          List.forall_mem_singleton.2 error.code_ne_parsingComplete⟩

/-- Of a word in front of a comment without end, the lexer reports the comment before the parser
gets there, and the parser reports it again. -/
theorem parse_reports_openComment :
    let session : Session := ⟨.empty, some (.toMemory .debug), none, #[]⟩
    let error : LexicalError := .unterminatedComment ⟨⟨1, 3⟩, ⟨1, 5⟩⟩
    (session.parse "x /*").1 = .error (.lexical error) ∧
      ∃ before last,
        told ((parseSource session.readingPreferences "x /*").events.filter session.admits) =
          before ++ [last] ∧
        last.ReportsError error.code error.span error.message ∧
        ∃ report, before = [report] ∧
          report.ReportsError error.code error.span error.message := by
  intro session error
  have hresult : (session.parse "x /*").1 = .error (.lexical error) := by
    with_unfolding_all rfl
  obtain ⟨-, -, -, hreports⟩ := parse_reports session "x /*" rfl rfl (fun _ _ => rfl)
  rw [hresult] at hreports
  obtain ⟨before, last, htold, -, hlast, -, -, -, report, hbefore, hreport⟩ := hreports
  exact ⟨hresult, before, last, htold, hlast, report, hbefore, hreport⟩

end VinylSyntax
