import VinylSyntax.Proofs.Actions

/-!
# The loops of the parser, round by round

The parser bounds its loops: collecting ends if a round has read nothing, and arguments are counted
down. Here each loop is one round and the loop again (`Parse.round`), with no bound: collecting
because every item is made of tokens, arguments because the round counts those that were found.
-/

namespace VinylSyntax

namespace Parse

variable {α β σ : Type}

/-- What two actions read one behind the other is read by the first and then by the second. -/
theorem bind_eq_ok {action : Parse α} {next : α → Parse β} {parser last : Parser} {value : β}
    (h : (action >>= next) parser = .ok value last) :
    ∃ middle behind, action parser = .ok middle behind ∧ next middle behind = .ok value last := by
  cases hresult : action parser with
  | ok middle behind => exact ⟨middle, behind, rfl, (bind_ok hresult).symm.trans h⟩
  | error error stuck => exact absurd ((bind_error hresult).symm.trans h) (by simp)

/-! ## Rounds -/

/-- A round of a loop, behind which the loop ends or goes on with `again`. -/
def round (turn : Parse (σ ⊕ α)) (again : σ → Parse α) : Parse α := do
  match ← turn with
  | .inl next => again next
  | .inr value => return value

/-- The round in which one more item is collected, unless `stop` holds. -/
def collectNext (stop : Parse Bool) (item : Parse (Option α)) (found : List α) :
    Parse (List α ⊕ List α) := do
  if ← stop then return .inr found.reverse else return .inl ((← item).toList ++ found)

/-- As long as items are made of tokens, collecting is collecting one and going on. -/
theorem collectFrom_eq_round {stop : Parse Bool} {test : Option Token → Bool}
    {item : Parse (Option α)} (hdecides : Decides stop test) (hprogress : Progresses item)
    (found : List α) (parser : Parser) :
    collectFrom stop item found parser =
      round (collectNext stop item found) (collectFrom stop item) parser := by
  rw [collectFrom_eq hdecides hprogress]
  simp only [round, collectNext, bind_assoc]
  refine congrFun (congrArg (stop >>= ·) (funext fun ended => ?_)) parser
  cases ended <;> simp

/-- A round behind which collecting goes on reads a token. -/
theorem allowance_lt_of_collectNext {stop : Parse Bool} {test : Option Token → Bool}
    {item : Parse (Option α)} (hdecides : Decides stop test) (hprogress : Progresses item)
    {found next : List α} {parser behind : Parser}
    (h : collectNext stop item found parser = .ok (.inl next) behind) :
    behind.allowance < parser.allowance := by
  obtain ⟨ended, ready, hended, hrest⟩ := bind_eq_ok h
  cases ended with
  | true => cases hrest
  | false =>
    obtain ⟨value, last, hvalue, hlast⟩ := bind_eq_ok hrest
    obtain ⟨-, rfl⟩ := EStateM.Result.ok.inj hlast
    exact Nat.lt_of_lt_of_le (hprogress _ _ _ hvalue) (hdecides.allowance_le hended)

/-- What is done behind an argument: the arguments found are counted, and a comma is consumed. -/
def moreArguments (function : Identifier) (found : List Argument) :
    Parse (List Argument ⊕ List Argument) := do
  if Limits.argumentCount < found.length then
    throw (.tooManyArguments function.name found.length Limits.argumentCount function.span.start)
  else if ← nextIs (Token.isSymbol .comma) then
    let _ ← advance
    return .inl found
  else
    return .inr found.reverse

/-- The round in which one more argument of a function is read. -/
def nextArgument (function : Identifier) (found : List Argument) :
    Parse (List Argument ⊕ List Argument) := do
  moreArguments function ((← argument) :: found)

/-- Counting the arguments down is counting the ones that were found. -/
theorem argumentsFrom_eq_round (function : Identifier) {found : List Argument} {allowed : Nat}
    (h : found.length + allowed = Limits.argumentCount) :
    argumentsFrom function found allowed =
      round (nextArgument function found) (argumentsFrom function · (allowed - 1)) := by
  cases allowed with
  | zero =>
    simp only [argumentsFrom, round, nextArgument, moreArguments, bind_assoc]
    refine congrArg (argument >>= ·) (funext fun last => ?_)
    have hlength : (last :: found).length = Limits.argumentCount + 1 := by
      rw [List.length_cons, ← h, Nat.add_zero]
    rw [if_pos (by omega), hlength]
    rfl
  | succ allowed =>
    simp only [argumentsFrom, round, nextArgument, moreArguments, bind_assoc]
    refine congrArg (argument >>= ·) (funext fun last => ?_)
    rw [if_neg (by rw [List.length_cons]; omega), bind_assoc]
    refine congrArg (nextIs (Token.isSymbol .comma) >>= ·) (funext fun more => ?_)
    cases more <;> simp

/-- Reading goes on behind arguments that are not too many. -/
theorem moreArguments_eq_ok {function : Identifier} {found next : List Argument}
    {parser behind : Parser} (h : moreArguments function found parser = .ok (.inl next) behind) :
    next = found ∧ found.length ≤ Limits.argumentCount := by
  unfold moreArguments at h
  split at h
  · cases h
  · next hcount =>
    obtain ⟨more, ready, -, hrest⟩ := bind_eq_ok h
    cases more with
    | false => cases hrest
    | true =>
      obtain ⟨token, last, -, hlast⟩ := bind_eq_ok hrest
      cases hlast
      exact ⟨rfl, Nat.le_of_not_lt hcount⟩

/-! ## Calls -/

/-- Reading an argument leaves less to read. -/
theorem argument_progresses : Progresses argument :=
  argument_follows.progresses fun _ _ hphrase => by
    obtain ⟨-, -⟩ := hphrase
    exact List.cons_ne_nil _ _

/-- Reading a conditional leaves less to read. -/
theorem conditional_progresses {nested : Option (Parse (Option Statement))} {outer : Nat}
    (h : Follows (conditional nested) (conditionalRule outer)) : Progresses (conditional nested) :=
  h.progresses fun _ _ hphrase => by
    obtain ⟨-, -, -, -⟩ := hphrase
    exact List.cons_ne_nil _ _

/-- Reading a function leaves less to read. -/
theorem function_progresses : Progresses function :=
  function_follows.progresses fun _ _ hphrase => by
    obtain ⟨-, -, -, -, -, -, -⟩ := hphrase
    exact List.cons_ne_nil _ _

end Parse

end VinylSyntax
