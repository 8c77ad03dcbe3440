import VinylSyntax.Parser.State

/-!
# Actions run side by side

Two actions on states of two kinds correspond if, from states that are related, both succeed with
the same value in states that are related again, or both fail. `Simulates` is put together along
the actions: see `Simulates.bind` and `Simulates.ite`. The relation behind a success may depend on
the value.
-/

namespace VinylSyntax

variable {ε δ σ τ α β : Type}

/-- Two outcomes correspond: the same value in states related by `post`, or errors in states related
by `failing`. -/
inductive Corresponds (post : α → σ → τ → Prop) (failing : ε → σ → δ → τ → Prop) :
    EStateM.Result ε σ α → EStateM.Result δ τ α → Prop where
  | ok {value : α} {state : σ} {other : τ} (h : post value state other) :
      Corresponds post failing (.ok value state) (.ok value other)
  | error {error : ε} {fault : δ} {state : σ} {other : τ} (h : failing error state fault other) :
      Corresponds post failing (.error error state) (.error fault other)

/-- From states related by `pre`, two actions have outcomes that correspond. -/
def Simulates (pre : σ → τ → Prop) (post : α → σ → τ → Prop) (failing : ε → σ → δ → τ → Prop)
    (action : EStateM ε σ α) (other : EStateM δ τ α) : Prop :=
  ∀ state state', pre state state' → Corresponds post failing (action state) (other state')

variable {pre : σ → τ → Prop} {post : α → σ → τ → Prop} {failing : ε → σ → δ → τ → Prop}
  {action : EStateM ε σ α} {other : EStateM δ τ α}

/-- Outcomes that correspond are both successes or both failures. -/
theorem Corresponds.inv {result : EStateM.Result ε σ α} {result' : EStateM.Result δ τ α}
    (h : Corresponds post failing result result') :
    (∃ value state state', result = .ok value state ∧ result' = .ok value state' ∧
      post value state state') ∨
    ∃ error state error' state', result = .error error state ∧ result' = .error error' state' ∧
      failing error state error' state' := by
  cases h with
  | ok h => exact .inl ⟨_, _, _, rfl, rfl, h⟩
  | error h => exact .inr ⟨_, _, _, _, rfl, rfl, h⟩

/-- Outcomes that correspond do so by weaker relations, too. -/
theorem Corresponds.weaken {post' : α → σ → τ → Prop} {failing' : ε → σ → δ → τ → Prop}
    {result : EStateM.Result ε σ α} {result' : EStateM.Result δ τ α}
    (h : Corresponds post failing result result')
    (hpost : ∀ value state state', post value state state' → post' value state state')
    (hfailing : ∀ error state error' state', failing error state error' state' →
      failing' error state error' state') :
    Corresponds post' failing' result result' := by
  cases h with
  | ok h => exact .ok (hpost _ _ _ h)
  | error h => exact .error (hfailing _ _ _ _ h)

/-- Actions that correspond do so from stronger relations to weaker ones, too. -/
theorem Simulates.weaken {pre' : σ → τ → Prop} {post' : α → σ → τ → Prop}
    {failing' : ε → σ → δ → τ → Prop} (h : Simulates pre post failing action other)
    (hpre : ∀ state state', pre' state state' → pre state state')
    (hpost : ∀ value state state', post value state state' → post' value state state')
    (hfailing : ∀ error state error' state', failing error state error' state' →
      failing' error state error' state') :
    Simulates pre' post' failing' action other := fun state state' hstate =>
  (h state state' (hpre state state' hstate)).weaken hpost hfailing

/-- Returning the same value corresponds where the states are related as they should be behind
it. -/
theorem Simulates.pure (value : α)
    (h : ∀ state state', pre state state' → post value state state') :
    Simulates pre post failing (pure value) (pure value) := fun state state' hstate =>
  .ok (h state state' hstate)

/-- Two failures correspond where they are related as they should be. -/
theorem Simulates.throw {error : ε} {error' : δ}
    (h : ∀ state state', pre state state' → failing error state error' state') :
    Simulates pre post failing (throw error) (throw error') := fun state state' hstate =>
  .error (h state state' hstate)

/-- One action and then another corresponds to one action and then another. -/
theorem Simulates.bind {post' : β → σ → τ → Prop} {next : α → EStateM ε σ β}
    {next' : α → EStateM δ τ β} (h : Simulates pre post failing action other)
    (hnext : ∀ value, Simulates (post value) post' failing (next value) (next' value)) :
    Simulates pre post' failing (action >>= next) (other >>= next') := by
  intro state state' hstate
  show Corresponds post' failing (EStateM.bind action next state) (EStateM.bind other next' state')
  unfold EStateM.bind
  rcases (h state state' hstate).inv with
    ⟨value, behind, behind', hresult, hresult', hpost⟩ |
    ⟨error, stuck, error', stuck', hresult, hresult', hfails⟩ <;>
    rw [hresult, hresult']
  · exact hnext value behind behind' hpost
  · exact .error hfails

/-- What is known to hold behind a success of the one action holds behind a success of both. -/
theorem Simulates.learn {holds : α → τ → Prop} (h : Simulates pre post failing action other)
    (hholds : ∀ state value behind, other state = .ok value behind → holds value behind) :
    Simulates pre (fun value state state' => post value state state' ∧ holds value state') failing
      action other := by
  intro state state' hstate
  rcases (h state state' hstate).inv with
    ⟨value, behind, behind', hresult, hresult', hpost⟩ |
    ⟨error, stuck, error', stuck', hresult, hresult', hfails⟩ <;>
    rw [hresult, hresult']
  · exact .ok ⟨hpost, hholds state' value behind' hresult'⟩
  · exact .error hfails

/-- If the one action succeeds, neither fails, so that how they fail may be chosen. -/
theorem Simulates.succeeds {pre' : σ → τ → Prop} {failing' : ε → σ → δ → τ → Prop}
    (h : Simulates pre post failing action other)
    (hpre : ∀ state state', pre' state state' → pre state state')
    (hsucceeds : ∀ state state', pre' state state' →
      ∃ value behind, other state' = .ok value behind) :
    Simulates pre' post failing' action other := by
  intro state state' hstate
  obtain ⟨value, behind, hvalue⟩ := hsucceeds state state' hstate
  rcases (h state state' (hpre state state' hstate)).inv with
    ⟨value', behind', _, hresult, hresult', hpost⟩ | ⟨_, _, _, _, -, hresult', -⟩
  · rw [hresult, hresult']
    exact .ok hpost
  · simp [hvalue] at hresult'

/-- A choice corresponds to a choice that is made in the same way. -/
theorem Simulates.ite {test : Bool} {second : EStateM ε σ α} {second' : EStateM δ τ α}
    (htrue : test = true → Simulates pre post failing action other)
    (hfalse : test = false → Simulates pre post failing second second') :
    Simulates pre post failing (if test = true then action else second)
      (if test = true then other else second') := by
  cases test with
  | true => exact htrue rfl
  | false => exact hfalse rfl

end VinylSyntax
