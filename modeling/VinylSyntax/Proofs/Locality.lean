import VinylSyntax.Proofs.Actions

/-!
# How far the parser looks

The parser decides by the next token, and never looks behind one that it refuses. So an action that
succeeds does the same wherever the tokens that it takes and the next one are ahead, and one that
refuses a token does so wherever the tokens up to that one are ahead, whatever comes then: see
`Composed.isLocal` and `Parser.parse_of_prefix`.
-/

namespace VinylSyntax

/-- Tokens begin with a certain one if it is the first of them. -/
theorem singleton_prefix_iff {token : Token} {tokens : List Token} :
    [token] <+: tokens ↔ tokens.head? = some token := by
  constructor
  · rintro ⟨rest, rfl⟩
    rfl
  · intro h
    obtain ⟨rest, rfl⟩ := List.head?_eq_some_iff.1 h
    exact ⟨rest, rfl⟩

/-- Tokens that something begins with show what is next. -/
theorem exists_head {tokens rest : List Token} {last : Token} (h : tokens ++ [last] <+: rest) :
    ∃ next, [next] <+: rest ∧ [next] <+: tokens ++ [last] := by
  cases tokens with
  | nil => exact ⟨last, h, List.prefix_rfl⟩
  | cons next tokens =>
    have hnext : [next] <+: next :: tokens ++ [last] := ⟨tokens ++ [last], rfl⟩
    exact ⟨next, hnext.trans h, hnext⟩

namespace Parse

variable {α β : Type}

/-- What an action does from a state is settled by the tokens that it takes and the next one, or by
those up to the one that it refuses. -/
def LocalAt (action : Parse α) (parser : Parser) : Prop :=
  match action parser with
  | .ok value behind =>
    ∃ taken, parser.ahead = behind.ahead.behind taken ∧
      ∀ (next : Token) (other : Parser), [next] <+: behind.ahead.tokens →
        taken ++ [next] <+: other.ahead.tokens →
        ∃ behind', action other = .ok value behind' ∧ other.ahead = behind'.ahead.behind taken
  | .error error _ =>
    ∀ expected token, error = .unexpectedToken expected token →
      ∃ taken, taken ++ [token] <+: parser.ahead.tokens ∧
        ∀ other : Parser, taken ++ [token] <+: other.ahead.tokens →
          ∃ stuck', action other = .error error stuck'

/-- What an action does is settled so from any state. -/
def Local (action : Parse α) : Prop := ∀ parser, LocalAt action parser

section outcomes

variable {action : Parse α} {parser behind stuck : Parser}

/-- An action is local where it reads the same wherever the tokens that it takes and the next one
stand. -/
theorem localAt_of_ok {value : α} (taken : List Token) (h : action parser = .ok value behind)
    (hahead : parser.ahead = behind.ahead.behind taken)
    (hother : ∀ (next : Token) (other : Parser), [next] <+: behind.ahead.tokens →
      taken ++ [next] <+: other.ahead.tokens →
      ∃ behind', action other = .ok value behind' ∧ other.ahead = behind'.ahead.behind taken) :
    LocalAt action parser := by
  rw [LocalAt, h]
  exact ⟨taken, hahead, hother⟩

/-- An action that fails without refusing a token. -/
theorem localAt_of_error {error : SyntaxError} (h : action parser = .error error stuck)
    (herror : ∀ expected token, error ≠ .unexpectedToken expected token) :
    LocalAt action parser := by
  rw [LocalAt, h]
  exact fun expected token htoken => absurd htoken (herror expected token)

/-- An action is local where it refuses a token wherever that one stands behind those in front of
it. -/
theorem localAt_of_refused {expected : Expectation} {token : Token} (taken : List Token)
    (h : action parser = .error (.unexpectedToken expected token) stuck)
    (hahead : taken ++ [token] <+: parser.ahead.tokens)
    (hother : ∀ other : Parser, taken ++ [token] <+: other.ahead.tokens →
      ∃ stuck', action other = .error (.unexpectedToken expected token) stuck') :
    LocalAt action parser := by
  rw [LocalAt, h]
  rintro _ _ ⟨⟩
  exact ⟨taken, hahead, hother⟩

end outcomes

/-! ## Basic actions -/

/-- Returning a value is local. -/
theorem pure_local (value : α) : Local (pure value) := fun _ =>
  localAt_of_ok [] rfl rfl fun _ other _ _ => ⟨other, rfl, rfl⟩

/-- A quiet action is local. -/
theorem Quiet.isLocal {action : Parse Unit} (h : Quiet action) : Local action := by
  intro parser
  obtain ⟨ready, hready, hahead, -⟩ := h parser
  refine localAt_of_ok [] hready hahead.symm fun next other _ _ => ?_
  obtain ⟨ready', hready', hahead', -⟩ := h other
  exact ⟨ready', hready', hahead'.symm⟩

/-- A test is settled by the next token. -/
theorem Decides.isLocal {action : Parse Bool} {test : Option Token → Bool}
    (h : Decides action test) : Local action := by
  intro parser
  rcases h parser with ⟨ready, hready, -, hahead, -⟩ | ⟨error, stuck, hstuck, -⟩
  · refine localAt_of_ok [] hready hahead.symm fun next other hnext hother => ?_
    rw [hahead, singleton_prefix_iff] at hnext
    rw [List.nil_append, singleton_prefix_iff] at hother
    rcases h other with ⟨ready', hready', -, hahead', -⟩ | ⟨error, stuck, -, hfailed⟩
    · rw [hother, ← hnext] at hready'
      exact ⟨ready', hready', hahead'.symm⟩
    · rw [hfailed] at hother
      cases hother
  · exact localAt_of_error hstuck (by simp)

/-- Leaving a production behind a local action is local. -/
theorem leaving_local {action : Parse α} (h : Local action) : Local (leaving action) := by
  intro parser
  have hat := h parser
  cases hresult : action parser with
  | ok value behind =>
    rw [LocalAt, hresult] at hat
    obtain ⟨taken, hahead, hsettled⟩ := hat
    rw [LocalAt, leaving, hresult]
    refine ⟨taken, hahead, fun next other hnext hother => ?_⟩
    obtain ⟨behind', hbehind', hahead'⟩ := hsettled next other hnext hother
    exact ⟨{ behind' with productions := behind'.productions.tail }, by rw [leaving, hbehind'],
      hahead'⟩
  | error error stuck =>
    rw [LocalAt, hresult] at hat
    rw [LocalAt, leaving, hresult]
    intro expected token herror
    obtain ⟨taken, htaken, hsettled⟩ := hat expected token herror
    refine ⟨taken, htaken, fun other hother => ?_⟩
    obtain ⟨stuck', hstuck'⟩ := hsettled other hother
    exact ⟨{ stuck' with productions := stuck'.productions.tail }, by rw [leaving, hstuck']⟩

/-- One local action behind another makes a local one. -/
theorem LocalAt.bind {action : Parse α} {next : α → Parse β} {parser : Parser}
    (h : LocalAt action parser)
    (hnext : ∀ value behind, action parser = .ok value behind → LocalAt (next value) behind) :
    LocalAt (action >>= next) parser := by
  cases hresult : action parser with
  | error error stuck =>
    rw [LocalAt, hresult] at h
    rw [LocalAt, bind_error hresult]
    intro expected token herror
    obtain ⟨taken, htaken, hother⟩ := h expected token herror
    refine ⟨taken, htaken, fun other hprefix => ?_⟩
    obtain ⟨stuck', hstuck⟩ := hother other hprefix
    exact ⟨stuck', bind_error hstuck⟩
  | ok value behind =>
    have hsecond := hnext value behind hresult
    rw [LocalAt, hresult] at h
    obtain ⟨front, hfront, hfirst⟩ := h
    have htokens : parser.ahead.tokens = front ++ behind.ahead.tokens := by rw [hfront]; rfl
    -- What settles the second action begins with the token that the first one needs to see.
    have hthrough : ∀ {back : List Token} {last : Token} {other : Parser},
        back ++ [last] <+: behind.ahead.tokens → front ++ back ++ [last] <+: other.ahead.tokens →
        ∃ behind', action other = .ok value behind' ∧ other.ahead = behind'.ahead.behind front ∧
          back ++ [last] <+: behind'.ahead.tokens := by
      intro back last other hback hother
      rw [List.append_assoc] at hother
      obtain ⟨middle, hmiddle, hprefix⟩ := exists_head hback
      obtain ⟨behind', hbehind', hahead'⟩ := hfirst middle other hmiddle
        (((List.prefix_append_right_inj front).2 hprefix).trans hother)
      refine ⟨behind', hbehind', hahead', ?_⟩
      rw [hahead'] at hother
      exact (List.prefix_append_right_inj front).1 hother
    cases hlast : next value behind with
    | error error stuck =>
      rw [LocalAt, hlast] at hsecond
      rw [LocalAt, bind_ok hresult, hlast]
      intro expected token herror
      obtain ⟨back, hback, hother⟩ := hsecond expected token herror
      refine ⟨front ++ back, ?_, fun other hprefix => ?_⟩
      · rw [htokens, List.append_assoc]
        exact (List.prefix_append_right_inj front).2 hback
      · obtain ⟨behind', hbehind', -, hback'⟩ := hthrough hback hprefix
        obtain ⟨stuck', hstuck'⟩ := hother behind' hback'
        exact ⟨stuck', (bind_ok hbehind').trans hstuck'⟩
    | ok result last =>
      rw [LocalAt, hlast] at hsecond
      obtain ⟨back, hback, hother⟩ := hsecond
      refine localAt_of_ok (front ++ back) ((bind_ok hresult).trans hlast)
        (by rw [hfront, hback, Ahead.behind_behind]) ?_
      intro token other htoken hprefix
      have hbehind : back ++ [token] <+: behind.ahead.tokens := by
        rw [hback]
        exact (List.prefix_append_right_inj back).2 htoken
      obtain ⟨behind', hbehind', hahead', hback'⟩ := hthrough hbehind hprefix
      obtain ⟨last', hlast', hahead''⟩ := hother token behind' htoken hback'
      exact ⟨last', (bind_ok hbehind').trans hlast',
        by rw [hahead', hahead'', Ahead.behind_behind]⟩

/-! ## Tokens -/

/-- The next token decides a test of it. -/
theorem nextIs_of_next (accept : Token → Bool) {parser : Parser} {token : Token}
    (h : [token] <+: parser.ahead.tokens) :
    ∃ ready, nextIs accept parser = .ok (accept token) ready ∧ ready.Ready ∧
      ready.ahead = parser.ahead := by
  rw [singleton_prefix_iff] at h
  rcases nextIs_decides accept parser with ⟨ready, htest, hready, hahead, -⟩ | ⟨_, _, -, hfailed⟩
  · rw [h] at htest
    exact ⟨ready, htest, hready, hahead⟩
  · rw [hfailed] at h
    cases h

/-- Where no token is left, none is accepted. -/
theorem nextIs_of_none (accept : Token → Bool) {parser : Parser} (h : parser.ahead.tokens = []) :
    (∃ ready, nextIs accept parser = .ok false ready ∧ ready.Ready ∧
      ready.ahead = parser.ahead) ∨
    ∃ error stuck, nextIs accept parser = .error (.lexical error) stuck := by
  rcases nextIs_decides accept parser with ⟨ready, htest, hready, hahead, -⟩ | ⟨_, _, htest, -⟩
  · rw [h] at htest
    exact .inl ⟨ready, htest, hready, hahead⟩
  · exact .inr ⟨_, _, htest⟩

/-- A next token that is accepted can be taken. -/
theorem advance_of_accepted {accept : Token → Bool} {parser : Parser} {token : Token}
    (htoken : [token] <+: parser.ahead.tokens) (haccept : accept token = true) :
    ∃ ready behind, nextIs accept parser = .ok true ready ∧ advance ready = .ok token behind ∧
      parser.ahead = behind.ahead.behind [token] := by
  obtain ⟨ready, htest, hready, hahead⟩ := nextIs_of_next accept htoken
  rw [haccept] at htest
  rw [← hahead, singleton_prefix_iff] at htoken
  obtain ⟨behind, hadvance, hbehind, -⟩ := advance_ready hready htoken
  exact ⟨ready, behind, htest, hadvance, hahead ▸ hbehind⟩

/-- Takes the next token if it is accepted. -/
def takeIf (accept : Token → Bool) : Parse (Option Token) := do
  if ← nextIs accept then return some (← advance) else return none

/-- Testing the next token and consuming it if the test holds is taking it if it is accepted. -/
theorem choice_advance_eq {accept : Token → Bool} {next : Token → Parse α} {otherwise : Parse α} :
    (do if ← nextIs accept then next (← advance) else otherwise) =
      (do match ← takeIf accept with
          | some token => next token
          | none => otherwise) := by
  funext parser
  simp only [takeIf, bind, EStateM.bind]
  cases nextIs accept parser with
  | error error stuck => rfl
  | ok accepted ready =>
    cases accepted with
    | true => cases hadvance : advance ready <;> simp [EStateM.bind, hadvance]; rfl
    | false => rfl

/-- A token that is accepted is taken. -/
theorem takeIf_of_accepted {accept : Token → Bool} {parser : Parser} {token : Token}
    (htoken : [token] <+: parser.ahead.tokens) (haccept : accept token = true) :
    ∃ behind, takeIf accept parser = .ok (some token) behind ∧
      parser.ahead = behind.ahead.behind [token] := by
  obtain ⟨ready, behind, htest, hadvance, hahead⟩ := advance_of_accepted htoken haccept
  exact ⟨behind, (bind_ok htest).trans (bind_ok hadvance), hahead⟩

/-- A token that is not accepted is left. -/
theorem takeIf_of_refused {accept : Token → Bool} {parser : Parser} {token : Token}
    (htoken : [token] <+: parser.ahead.tokens) (haccept : accept token = false) :
    ∃ ready, takeIf accept parser = .ok none ready ∧ ready.ahead = parser.ahead := by
  obtain ⟨ready, htest, -, hahead⟩ := nextIs_of_next accept htoken
  rw [haccept] at htest
  exact ⟨ready, bind_ok htest, hahead⟩

/-- Taking a token if it is accepted is local. -/
theorem takeIf_local (accept : Token → Bool) : Local (takeIf accept) := by
  intro parser
  cases hnext : parser.ahead.tokens with
  | nil =>
    rcases nextIs_of_none accept hnext with ⟨ready, htest, -, hahead⟩ | ⟨error, stuck, htest⟩
    · refine localAt_of_ok [] (bind_ok htest) hahead.symm fun next other hempty _ => ?_
      rw [hahead, hnext] at hempty
      simp at hempty
    · exact localAt_of_error (bind_error htest) (by simp)
  | cons token rest =>
    have htoken : [token] <+: parser.ahead.tokens := by rw [hnext]; exact ⟨rest, rfl⟩
    cases haccept : accept token with
    | true =>
      obtain ⟨behind, hbehind, hahead⟩ := takeIf_of_accepted htoken haccept
      refine localAt_of_ok [token] hbehind hahead fun next other _ hother => ?_
      exact takeIf_of_accepted ((List.prefix_append [token] [next]).trans hother) haccept
    | false =>
      obtain ⟨ready, hready, hahead⟩ := takeIf_of_refused htoken haccept
      refine localAt_of_ok [] hready hahead.symm fun next other hnext' hother => ?_
      obtain rfl : token = next := by
        rw [hahead, hnext, singleton_prefix_iff] at hnext'
        exact Option.some.inj hnext'
      obtain ⟨ready', hready', hahead'⟩ := takeIf_of_refused hother haccept
      exact ⟨ready', hready', hahead'.symm⟩

/-- Testing the next token, and going on behind it if the test holds, is local if both ways on
are. -/
theorem choice_advance_local {accept : Token → Bool} {next : Token → Parse α} {otherwise : Parse α}
    (hnext : ∀ token, Local (next token)) (hotherwise : Local otherwise) :
    Local (do if ← nextIs accept then next (← advance) else otherwise) := by
  rw [choice_advance_eq]
  refine fun parser => (takeIf_local accept parser).bind fun taken behind _ => ?_
  cases taken with
  | some token => exact hnext token behind
  | none => exact hotherwise behind

/-- An expected token that is accepted is consumed. -/
theorem expect_of_accepted {accept : Token → Bool} {parser : Parser} {token : Token}
    (expected : Expectation) (htoken : [token] <+: parser.ahead.tokens)
    (haccept : accept token = true) :
    ∃ behind, expect accept expected parser = .ok token behind ∧
      parser.ahead = behind.ahead.behind [token] := by
  obtain ⟨ready, behind, htest, hadvance, hahead⟩ := advance_of_accepted htoken haccept
  exact ⟨behind, (bind_ok htest).trans hadvance, hahead⟩

/-- A token that is not accepted is what the error is about. -/
theorem expect_of_refused {accept : Token → Bool} {parser : Parser} {token : Token}
    (expected : Expectation) (htoken : [token] <+: parser.ahead.tokens)
    (haccept : accept token = false) :
    ∃ stuck, expect accept expected parser = .error (.unexpectedToken expected token) stuck := by
  obtain ⟨ready, htest, hready, hahead⟩ := nextIs_of_next accept htoken
  rw [haccept] at htest
  rw [← hahead, singleton_prefix_iff] at htoken
  rcases unexpected_ready (α := Token) hready expected with
    ⟨first, rest, htokens, hresult⟩ | ⟨location, hend, -⟩
  · obtain rfl : first = token := by simpa [htokens] using htoken
    exact ⟨ready, (bind_ok htest).trans hresult⟩
  · rw [hend] at htoken
    cases htoken

/-- Expecting a token is local. -/
theorem expect_local (accept : Token → Bool) (expected : Expectation) :
    Local (expect accept expected) := by
  intro parser
  cases hnext : parser.ahead.tokens with
  | nil =>
    rcases nextIs_of_none accept hnext with ⟨ready, htest, hready, hahead⟩ | ⟨error, stuck, htest⟩
    · rcases unexpected_ready (α := Token) hready expected with
        ⟨first, rest, htokens, -⟩ | ⟨location, -, hresult⟩
      · rw [hahead, hnext] at htokens
        cases htokens
      · exact localAt_of_error ((bind_ok htest).trans hresult) (by simp)
    · exact localAt_of_error (bind_error htest) (by simp)
  | cons token rest =>
    have htoken : [token] <+: parser.ahead.tokens := by rw [hnext]; exact ⟨rest, rfl⟩
    cases haccept : accept token with
    | true =>
      obtain ⟨behind, hbehind, hahead⟩ := expect_of_accepted expected htoken haccept
      refine localAt_of_ok [token] hbehind hahead fun next other _ hother => ?_
      exact expect_of_accepted expected ((List.prefix_append [token] [next]).trans hother) haccept
    | false =>
      obtain ⟨stuck, hstuck⟩ := expect_of_refused expected htoken haccept
      exact localAt_of_refused [] hstuck htoken fun other hother =>
        expect_of_refused expected hother haccept

/-- Collecting what is found by a local action that progresses. -/
theorem collectFrom_local {stop : Parse Bool} {test : Option Token → Bool}
    {action : Parse (Option α)} (hstop : Local stop) (hdecides : Decides stop test)
    (haction : Local action) (hprogress : Progresses action) (found : List α) :
    Local (collectFrom stop action found) := by
  intro parser
  -- Every round reads a token.
  induction hallowance : parser.allowance using Nat.strongRecOn generalizing parser found with
  | ind _ ih =>
    have heq := funext (collectFrom_eq hdecides hprogress found)
    rw [heq]
    refine (hstop parser).bind fun ended ready hended => ?_
    cases ended with
    | true => exact pure_local found.reverse ready
    | false =>
      refine (haction ready).bind fun value behind hvalue => ?_
      have hlt := hprogress _ _ _ hvalue
      have hle := hdecides.allowance_le hended
      exact ih behind.allowance (by omega) (value.toList ++ found) behind rfl

/-- Every action of the parser is local. -/
theorem Composed.isLocal {action : Parse α} (h : Composed action) : Local action := by
  induction h with
  | pure value => exact pure_local value
  | throw error hother => exact fun parser => localAt_of_error rfl hother
  | bind _ _ ih ihnext =>
    exact fun parser => (ih parser).bind fun value behind _ => ihnext value behind
  | enter production => exact (enter_quiet production).isLocal
  | leave => exact leave_quiet.isLocal
  | leaving _ ih => exact leaving_local ih
  | atEnd => exact atEnd_decides.isLocal
  | nextIs accept => exact (nextIs_decides accept).isLocal
  | expect accept expected => exact expect_local accept expected
  | choice_advance accept _ _ ihnext ihotherwise => exact choice_advance_local ihnext ihotherwise
  | collectFrom _ hdecides _ hprogress found ihstop ihaction =>
    exact collectFrom_local ihstop hdecides ihaction hprogress found

end Parse

/-- A parser that refuses a token does so wherever the tokens up to that one are ahead. -/
theorem Parser.parse_of_prefix {parser : Parser} {expected : Expectation} {token : Token}
    (h : parser.parse.1 = .error (.unexpectedToken expected token)) :
    ∃ taken, taken ++ [token] <+: parser.ahead.tokens ∧
      ∀ other : Parser, taken ++ [token] <+: other.ahead.tokens →
        other.parse.1 = .error (.unexpectedToken expected token) := by
  have hlocal := Parse.program_composed.isLocal parser
  unfold Parser.parse at h ⊢
  cases hresult : Parse.program parser with
  | ok parts behind =>
    rw [hresult] at h
    cases h
  | error error stuck =>
    rw [hresult] at h
    obtain rfl : error = .unexpectedToken expected token := Except.error.inj h
    rw [Parse.LocalAt, hresult] at hlocal
    obtain ⟨taken, htaken, hother⟩ := hlocal expected token rfl
    refine ⟨taken, htaken, fun other hprefix => ?_⟩
    obtain ⟨stuck', hstuck'⟩ := hother other hprefix
    rw [hstuck']

end VinylSyntax
