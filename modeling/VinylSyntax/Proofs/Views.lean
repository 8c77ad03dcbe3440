import VinylSyntax.Proofs.Actions
import VinylSyntax.Proofs.Simulation

/-!
# Parsers that see the same

What an action of the parser does depends on nothing but what is ahead: parsers that have the same
tokens ahead, comments aside, read the same or fail with the same error, and see the same again
behind that. So neither comments nor preferences can change a program or an error.
-/

namespace VinylSyntax

/-- The same is ahead of two parsers, and they are in the same productions. -/
structure Parser.Like (parser other : Parser) : Prop where
  ahead_eq : parser.ahead = other.ahead
  productions_eq : parser.productions = other.productions

/-- Parsers that see the same still do when both leave a production. -/
theorem Parser.Like.left {parser other : Parser} (h : parser.Like other) :
    Parser.Like { parser with productions := parser.productions.tail }
      { other with productions := other.productions.tail } :=
  ⟨h.ahead_eq, congrArg List.tail h.productions_eq⟩

/-- Tracing an event leaves the productions as they are. -/
@[simp] theorem Parser.productions_trace (parser : Parser) (event : Event) :
    (parser.trace event).productions = parser.productions := by
  unfold trace
  split <;> rfl

/-- Two parsers that see the same and that both have no comment and no error next. -/
structure Parser.ReadyLike (parser other : Parser) : Prop extends parser.Like other where
  ready : parser.Ready
  other_ready : other.Ready

namespace Parse

variable {α β : Type}

/-- Two parsers fail in the same way and see the same. -/
def FailsLike (error : SyntaxError) (parser : Parser) (error' : SyntaxError) (other : Parser) :
    Prop :=
  error = error' ∧ parser.Like other

/-- From parsers that see the same, an action reads the same or fails with the same error, and they
see the same again. -/
def Uniform (action : Parse α) : Prop :=
  Simulates Parser.Like (fun _ => Parser.Like) FailsLike action action

/-- Returning a value depends on nothing. -/
theorem Uniform.pure (value : α) : Uniform (pure value) := Simulates.pure value fun _ _ h => h

/-- Actions behind one another depend on what is seen if each of them does. -/
theorem Uniform.bind {action : Parse α} {next : α → Parse β} (h : Uniform action)
    (hnext : ∀ value, Uniform (next value)) : Uniform (action >>= next) :=
  Simulates.bind h hnext

/-- Failing depends on nothing. -/
theorem Uniform.throw (error : SyntaxError) : Uniform (throw error : Parse α) :=
  Simulates.throw fun _ _ h => ⟨rfl, h⟩

/-! ## Tokens -/

/-- Skipping comments keeps what is seen, whether it succeeds or fails. -/
theorem skipComments_keeps (parser : Parser) :
    match skipComments parser with
    | .ok _ behind | .error _ behind => behind.Like parser := by
  fun_induction skipComments parser with
  | case1 parser => exact ⟨rfl, rfl⟩
  | case2 parser => exact ⟨rfl, rfl⟩
  | case3 parser token hpending hcomment hlt ih =>
    have hahead : parser.behindToken.ahead = parser.ahead := by
      rw [Parser.ahead_behindToken hpending, Ahead.push_comment hcomment]
    split at ih
    · exact ⟨ih.ahead_eq.trans hahead, ih.productions_eq⟩
    · exact ⟨ih.ahead_eq.trans hahead, ih.productions_eq⟩
  | case4 parser => exact ⟨rfl, rfl⟩

/-- A parser that is ready does not see an error. -/
theorem not_failed_of_ready {parser : Parser} (hready : parser.Ready) (error : LexicalError) :
    parser.ahead ≠ ⟨[], .failed error⟩ := by
  rcases hready.pending_eq with ⟨token, -, hahead⟩ | ⟨-, hahead⟩
  · simp [hahead, Ahead.behind]
  · simp [hahead]

/-- From parsers that see the same, passing comments leads in front of the same token. -/
theorem skipComments_simulates :
    Simulates Parser.Like (fun _ => Parser.ReadyLike) FailsLike skipComments skipComments := by
  intro parser other hlike
  have hkeeps := skipComments_keeps parser
  have hkeeps' := skipComments_keeps other
  rcases skipComments_spec parser with
    ⟨ready, hskip, hready, hahead, -⟩ | ⟨error, stuck, hskip, hahead⟩ <;>
  rcases skipComments_spec other with
    ⟨ready', hskip', hready', hahead', -⟩ | ⟨error', stuck', hskip', hahead'⟩ <;>
  rw [hskip] at hkeeps ⊢ <;> rw [hskip'] at hkeeps' ⊢
  · refine .ok ⟨⟨?_, ?_⟩, hready, hready'⟩
    · rw [hahead, hahead', hlike.ahead_eq]
    · rw [hkeeps.productions_eq, hkeeps'.productions_eq, hlike.productions_eq]
  · exact absurd (hahead.trans (hlike.ahead_eq.trans hahead')) (not_failed_of_ready hready error')
  · exact absurd (hahead'.trans (hlike.ahead_eq.symm.trans hahead))
      (not_failed_of_ready hready' error)
  · have hsame := hahead.symm.trans (hlike.ahead_eq.trans hahead')
    refine .error ⟨?_, ?_, ?_⟩
    · simpa using hsame
    · rw [hkeeps.ahead_eq, hkeeps'.ahead_eq, hlike.ahead_eq]
    · rw [hkeeps.productions_eq, hkeeps'.productions_eq, hlike.productions_eq]

/-- In front of the same token, looking at it gives the same. -/
theorem peek_simulates :
    Simulates Parser.ReadyLike (fun _ => Parser.ReadyLike) FailsLike peek peek := by
  intro parser other hlike
  simp only [peek, hlike.ready.peek_eq, hlike.other_ready.peek_eq, hlike.ahead_eq]
  exact .ok hlike

/-- From parsers that see the same, testing the next token gives the same. -/
theorem nextIs_simulates (accept : Token → Bool) :
    Simulates Parser.Like (fun _ => Parser.ReadyLike) FailsLike (nextIs accept) (nextIs accept) :=
  skipComments_simulates.bind fun _ => peek_simulates.bind fun _ => .pure _ fun _ _ h => h

/-- From parsers that see the same, testing for the end gives the same. -/
theorem atEnd_simulates :
    Simulates Parser.Like (fun _ => Parser.ReadyLike) FailsLike atEnd atEnd :=
  skipComments_simulates.bind fun _ => peek_simulates.bind fun _ => .pure _ fun _ _ h => h

/-- Parsers that are ready and see the same hold the same token, or rest at the same location. -/
theorem pending_of_readyLike {parser other : Parser} (h : parser.ReadyLike other) :
    (∃ token, parser.tokens.pending = some (.ok token) ∧
      other.tokens.pending = some (.ok token) ∧ parser.behindToken.Like other.behindToken) ∨
    (parser.tokens.pending = none ∧ other.tokens.pending = none ∧
      parser.tokens.location = other.tokens.location) := by
  have hsame := h.ahead_eq
  rcases h.ready.pending_eq with ⟨token, hpending, hahead⟩ | ⟨hpending, hahead⟩ <;>
  rcases h.other_ready.pending_eq with ⟨token', hpending', hahead'⟩ | ⟨hpending', hahead'⟩ <;>
  rw [hahead, hahead'] at hsame
  · obtain ⟨⟨rfl, htokens⟩, hending⟩ :
        (token = token' ∧ parser.behindToken.ahead.tokens = other.behindToken.ahead.tokens) ∧
          parser.behindToken.ahead.ending = other.behindToken.ahead.ending := by
      simpa [Ahead.behind] using hsame
    exact .inl ⟨token, hpending, hpending', Ahead.ext htokens hending, h.productions_eq⟩
  · simp [Ahead.behind] at hsame
  · simp [Ahead.behind] at hsame
  · exact .inr ⟨hpending, hpending', by simpa using hsame⟩

/-- In front of the same token, consuming it gives the same, and the same is seen behind it. -/
theorem advance_simulates :
    Simulates Parser.ReadyLike (fun _ => Parser.Like) FailsLike advance advance := by
  intro parser other hlike
  rcases pending_of_readyLike hlike with
    ⟨token, hpending, hpending', hbehind⟩ | ⟨hpending, hpending', hlocation⟩
  · simp only [advance, Lookahead.read, hpending, hpending']
    refine .ok ⟨?_, ?_⟩
    · rw [Parser.ahead_trace, Parser.ahead_trace, hbehind.ahead_eq]
    · rw [Parser.productions_trace, Parser.productions_trace, hbehind.productions_eq]
  · simp only [advance, Lookahead.read, hpending, hpending', hlocation]
    exact .error ⟨rfl, hlike.toLike⟩

/-- In front of the same token, refusing it fails with the same error. -/
theorem unexpected_simulates (expected : Expectation) :
    Simulates Parser.ReadyLike (fun _ => Parser.Like) FailsLike
      (unexpected expected : Parse α) (unexpected expected) := by
  intro parser other hlike
  rcases pending_of_readyLike hlike with
    ⟨token, hpending, hpending', -⟩ | ⟨hpending, hpending', hlocation⟩
  · simp only [unexpected, Lookahead.peek, hpending, hpending']
    exact .error ⟨rfl, hlike.toLike⟩
  · simp only [unexpected, Lookahead.peek, hpending, hpending', hlocation]
    exact .error ⟨rfl, hlike.toLike⟩

/-- An action that leads in front of the same token leads to where the same is seen. -/
theorem Uniform.of_ready {action : Parse α}
    (h : Simulates Parser.Like (fun _ => Parser.ReadyLike) FailsLike action action) :
    Uniform action :=
  h.weaken (fun _ _ h => h) (fun _ _ _ h => h.toLike) fun _ _ _ _ h => h

/-- Going on behind the next token if it is accepted, and otherwise in another way. -/
theorem Uniform.choice_advance {accept : Token → Bool} {next : Token → Parse α}
    {otherwise : Parse α} (hnext : ∀ token, Uniform (next token)) (hotherwise : Uniform otherwise) :
    Uniform (do if ← nextIs accept then next (← advance) else otherwise) :=
  (nextIs_simulates accept).bind fun _ => .ite (fun _ => advance_simulates.bind hnext) fun _ =>
    hotherwise.weaken (fun _ _ h => h.toLike) (fun _ _ _ h => h) fun _ _ _ _ h => h

/-- Expecting a token depends on what is seen. -/
theorem expect_uniform (accept : Token → Bool) (expected : Expectation) :
    Uniform (expect accept expected) :=
  (nextIs_simulates accept).bind fun _ =>
    .ite (fun _ => advance_simulates) fun _ => unexpected_simulates expected

/-- Entering a production depends on nothing. -/
theorem enter_uniform (production : Production) : Uniform (enter production) := by
  intro parser other hlike
  refine .ok ⟨?_, ?_⟩
  · rw [Parser.ahead_trace, Parser.ahead_trace]
    exact hlike.ahead_eq
  · rw [Parser.productions_trace, Parser.productions_trace]
    exact congrArg (production :: ·) hlike.productions_eq

/-- Leaving a production depends on nothing. -/
theorem leave_uniform : Uniform leave := fun _ _ hlike => .ok hlike.left

/-- Leaving a production behind an action that depends on what is seen depends on no more. -/
theorem leaving_uniform {action : Parse α} (h : Uniform action) : Uniform (leaving action) := by
  intro parser other hlike
  unfold leaving
  rcases (h parser other hlike).inv with
    ⟨value, behind, behind', hresult, hresult', hlike'⟩ |
    ⟨error, stuck, error', stuck', hresult, hresult', hfails⟩ <;>
    rw [hresult, hresult']
  · exact .ok hlike'.left
  · exact .error ⟨hfails.1, hfails.2.left⟩

/-- Collecting what is found by an action that progresses. -/
theorem collectFrom_uniform {stop : Parse Bool} {test : Option Token → Bool}
    {action : Parse (Option α)} (hstop : Uniform stop) (hdecides : Decides stop test)
    (haction : Uniform action) (hprogress : Progresses action) (found : List α) :
    Uniform (collectFrom stop action found) := by
  intro parser other hlike
  -- The guard holds on both sides, as every round reads a token.
  induction hallowance : parser.allowance using Nat.strongRecOn
    generalizing parser other found with
  | ind _ ih =>
    rcases (hstop parser other hlike).inv with
      ⟨ended, ready, ready', hended, hended', hready⟩ |
      ⟨error, stuck, error', stuck', hfails, hfails', hlike'⟩
    · cases ended with
      | true =>
        rw [collectFrom_of_end hended, collectFrom_of_end hended']
        exact .ok hready
      | false =>
        rcases (haction ready ready' hready).inv with
          ⟨value, behind, behind', hvalue, hvalue', hbehind⟩ |
          ⟨error, stuck, error', stuck', hfails, hfails', hlike'⟩
        · have hlt := Nat.lt_of_lt_of_le (hprogress _ _ _ hvalue) (hdecides.allowance_le hended)
          have hlt' := Nat.lt_of_lt_of_le (hprogress _ _ _ hvalue') (hdecides.allowance_le hended')
          rw [collectFrom_of_value hended hvalue hlt, collectFrom_of_value hended' hvalue' hlt']
          exact ih behind.allowance (by omega) _ behind behind' hbehind rfl
        · rw [collectFrom_of_error hended hfails, collectFrom_of_error hended' hfails']
          exact .error hlike'
    · rw [collectFrom_of_stuck hfails, collectFrom_of_stuck hfails']
      exact .error hlike'

/-- Every action of the parser depends on nothing but what is ahead. -/
theorem Composed.uniform {action : Parse α} (h : Composed action) : Uniform action := by
  induction h with
  | pure value => exact .pure value
  | throw error => exact .throw error
  | bind _ _ ih ihnext => exact ih.bind ihnext
  | enter production => exact enter_uniform production
  | leave => exact leave_uniform
  | leaving _ ih => exact leaving_uniform ih
  | atEnd => exact .of_ready atEnd_simulates
  | nextIs accept => exact .of_ready (nextIs_simulates accept)
  | expect accept expected => exact expect_uniform accept expected
  | choice_advance accept _ _ ihnext ihotherwise => exact .choice_advance ihnext ihotherwise
  | collectFrom _ hdecides _ hprogress found ihstop ihaction =>
    exact collectFrom_uniform ihstop hdecides ihaction hprogress found

end Parse

/-- Parsers that see the same have the same outcome, and see the same behind it. -/
theorem Parser.Like.parse {parser other : Parser} (h : parser.Like other) :
    parser.parse.1 = other.parse.1 ∧ parser.parse.2.Like other.parse.2 := by
  unfold Parser.parse
  rcases (Parse.program_composed.uniform parser other h).inv with
    ⟨parts, behind, behind', hresult, hresult', hlike⟩ |
    ⟨error, stuck, error', stuck', hresult, hresult', rfl, hlike⟩ <;>
    rw [hresult, hresult']
  · exact ⟨rfl, hlike.ahead_eq, hlike.productions_eq⟩
  · exact ⟨rfl, hlike.ahead_eq, hlike.productions_eq⟩

end VinylSyntax
