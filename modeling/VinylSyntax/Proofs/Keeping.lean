import VinylSyntax.Proofs.Actions

/-!
# What every action of the parser keeps

An action changes a parser in three ways only: it enters and leaves productions, it logs an event
for debugging, and it takes the token that is held. What these three keep is kept by every action,
whether that succeeds or fails (`Parse.Composed.keeps`).
-/

namespace VinylSyntax

/-- An event for debugging, as tracing makes them. -/
structure Event.Traces (event : Event) : Prop where
  level_eq : event.level = .debug
  code_eq : event.code = .debugging

/-- A property of parsers that does not depend on productions and traces, and that taking a token
keeps. -/
structure Parser.Steady (holds : Parser → Prop) : Prop where
  produces : ∀ (parser : Parser) (productions : List Production),
    holds parser → holds { parser with productions := productions }
  traces : ∀ (parser : Parser) (event : Event), event.Traces → holds parser →
    holds (parser.log event)
  takes : ∀ (parser : Parser) (token : Token), parser.tokens.pending = some (.ok token) →
    holds parser → holds parser.behindToken

namespace Parse

variable {α β : Type} {holds : Parser → Prop}

/-- An action keeps a property, whether it succeeds or fails. -/
def Keeps (holds : Parser → Prop) (action : Parse α) : Prop :=
  ∀ parser, holds parser →
    match action parser with
    | .ok _ behind => holds behind
    | .error _ stuck => holds stuck

/-- A property that an action keeps holds behind its success. -/
theorem Keeps.of_ok {action : Parse α} {parser behind : Parser} {value : α}
    (h : Keeps holds action) (hparser : holds parser) (hresult : action parser = .ok value behind) :
    holds behind := by
  have hkept := h parser hparser
  rwa [hresult] at hkept

/-- A property that an action keeps holds behind its failure. -/
theorem Keeps.of_error {action : Parse α} {parser stuck : Parser} {error : SyntaxError}
    (h : Keeps holds action) (hparser : holds parser)
    (hresult : action parser = .error error stuck) : holds stuck := by
  have hkept := h parser hparser
  rwa [hresult] at hkept

/-! ## Composition -/

/-- Returning a value keeps every property. -/
theorem Keeps.pure (value : α) : Keeps holds (pure value : Parse α) := fun _ h => h

/-- Failing keeps every property. -/
theorem Keeps.throw (error : SyntaxError) : Keeps holds (throw error : Parse α) := fun _ h => h

/-- Actions behind one another keep what each of them does. -/
theorem Keeps.bind {action : Parse α} {next : α → Parse β} (h : Keeps holds action)
    (hnext : ∀ value, Keeps holds (next value)) : Keeps holds (action >>= next) := by
  intro parser hparser
  cases hresult : action parser with
  | ok value behind =>
    rw [bind_ok hresult]
    exact hnext value behind (h.of_ok hparser hresult)
  | error error stuck =>
    rw [bind_error hresult]
    exact h.of_error hparser hresult

/-- A choice between actions keeps what both of them do. -/
theorem Keeps.ite {test : Prop} [Decidable test] {action otherwise : Parse α}
    (h : Keeps holds action) (hotherwise : Keeps holds otherwise) :
    Keeps holds (if test then action else otherwise) := by
  split
  · exact h
  · exact hotherwise

/-- Collecting what an action reads keeps what the action and the test for the end do. -/
theorem keeps_collectFrom {stop : Parse Bool} {action : Parse (Option α)}
    (hstop : Keeps holds stop) (haction : Keeps holds action) (found : List α) :
    Keeps holds (collectFrom stop action found) := by
  intro parser hparser
  fun_induction collectFrom stop action found parser with
  | case1 found parser error stuck hended => exact hstop.of_error hparser hended
  | case2 found parser ready hended => exact hstop.of_ok hparser hended
  | case3 found parser ready hended error stuck hvalue =>
    exact haction.of_error (hstop.of_ok hparser hended) hvalue
  | case4 found parser ready hended value behind hvalue latest hlt ih =>
    exact ih (haction.of_ok (hstop.of_ok hparser hended) hvalue)
  | case5 found parser ready hended value behind hvalue latest hlt =>
    exact haction.of_ok (hstop.of_ok hparser hended) hvalue

/-! ## Tokens -/

/-- Looking at the next token keeps every property. -/
theorem keeps_peek : Keeps holds peek := by
  intro parser hparser
  unfold peek
  cases parser.tokens.peek <;> exact hparser

/-- Refusing the next token keeps every property. -/
theorem keeps_unexpected (expected : Expectation) :
    Keeps holds (unexpected expected : Parse α) := by
  intro parser hparser
  unfold unexpected
  rcases parser.tokens.peek with _ | _ | _ <;> exact hparser

section steady

variable (hsteady : Parser.Steady holds)

include hsteady

/-- Tracing keeps a steady property. -/
theorem keeps_trace {parser : Parser} {event : Event} (hevent : event.Traces) (h : holds parser) :
    holds (parser.trace event) := by
  unfold Parser.trace
  split
  · exact hsteady.traces parser event hevent h
  · exact h

/-- Passing comments keeps a steady property. -/
theorem keeps_skipComments : Keeps holds skipComments := by
  intro parser hparser
  fun_induction skipComments parser with
  | case1 | case2 | case4 => exact hparser
  | case3 parser token hpending hcomment hlt ih =>
    exact ih (hsteady.takes parser token hpending hparser)

/-- Consuming the next token keeps a steady property. -/
theorem keeps_advance : Keeps holds advance := by
  intro parser hparser
  cases hpending : parser.tokens.pending with
  | none => simpa [advance, Lookahead.read, hpending] using hparser
  | some item =>
    cases item with
    | error error => simpa [advance, Lookahead.read, hpending] using hparser
    | ok token =>
      have hadvance : advance parser = .ok token
          (parser.behindToken.trace (parser.behindToken.consumptionEvent token)) := by
        simp [advance, Lookahead.read, hpending]
      rw [hadvance]
      exact keeps_trace hsteady ⟨rfl, rfl⟩ (hsteady.takes parser token hpending hparser)

/-- Testing for the end keeps a steady property. -/
theorem keeps_atEnd : Keeps holds atEnd :=
  (keeps_skipComments hsteady).bind fun _ => keeps_peek.bind fun _ => .pure _

/-- Testing the next token keeps a steady property. -/
theorem keeps_nextIs (accept : Token → Bool) : Keeps holds (nextIs accept) :=
  (keeps_skipComments hsteady).bind fun _ => keeps_peek.bind fun _ => .pure _

/-- Expecting a token keeps a steady property. -/
theorem keeps_expect (accept : Token → Bool) (expected : Expectation) :
    Keeps holds (expect accept expected) :=
  (keeps_nextIs hsteady accept).bind fun _ =>
    (keeps_advance hsteady).ite (keeps_unexpected expected)

/-! ## Productions -/

/-- Entering a production keeps a steady property. -/
theorem keeps_enter (production : Production) : Keeps holds (enter production) :=
  fun parser hparser =>
    keeps_trace hsteady ⟨rfl, rfl⟩
      (hsteady.produces parser (production :: parser.productions) hparser)

/-- Leaving a production keeps a steady property. -/
theorem keeps_leave : Keeps holds leave := fun parser hparser =>
  hsteady.produces parser parser.productions.tail hparser

/-- Leaving a production behind an action keeps a steady property that the action keeps. -/
theorem keeps_leaving {action : Parse α} (h : Keeps holds action) :
    Keeps holds (leaving action) := by
  intro parser hparser
  unfold leaving
  cases hresult : action parser with
  | ok value behind => exact hsteady.produces behind _ (h.of_ok hparser hresult)
  | error error stuck => exact hsteady.produces stuck _ (h.of_error hparser hresult)

/-- What taking a token keeps is kept by every action of the parser. -/
theorem Composed.keeps {action : Parse α} (h : Composed action) : Keeps holds action := by
  induction h with
  | pure value => exact .pure value
  | throw error => exact .throw error
  | bind _ _ ih ihnext => exact ih.bind ihnext
  | enter production => exact keeps_enter hsteady production
  | leave => exact keeps_leave hsteady
  | leaving _ ih => exact keeps_leaving hsteady ih
  | atEnd => exact keeps_atEnd hsteady
  | nextIs accept => exact keeps_nextIs hsteady accept
  | expect accept expected => exact keeps_expect hsteady accept expected
  | choice_advance accept _ _ ihnext ihotherwise =>
    exact (keeps_nextIs hsteady accept).bind fun _ =>
      ((keeps_advance hsteady).bind ihnext).ite ihotherwise
  | collectFrom _ _ _ _ found ihstop ihaction => exact keeps_collectFrom ihstop ihaction found

end steady

end Parse

end VinylSyntax
