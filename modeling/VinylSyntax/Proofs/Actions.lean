import VinylSyntax.Proofs.Definitions

/-!
# What the parser is made of

All productions are composed of a few actions: entering and leaving, looking at the next token,
reading one that is expected, choosing by the next one, and collecting. What holds of these and of
their compositions holds of the parser: `program_composed` is the one walk through the productions,
and such a property is proved by induction on `Composed`.
-/

namespace VinylSyntax

namespace Parse

/-- An action is composed of the basic ones. No composition refuses a token of its own: only reading
a token that is expected does. -/
inductive Composed : {α : Type} → Parse α → Prop where
  | pure {α : Type} (value : α) : Composed (pure value)
  | throw {α : Type} (error : SyntaxError)
      (h : ∀ expected token, error ≠ .unexpectedToken expected token) :
      Composed (throw error : Parse α)
  | bind {α β : Type} {action : Parse α} {next : α → Parse β} (h : Composed action)
      (hnext : ∀ value, Composed (next value)) : Composed (action >>= next)
  | enter (production : Production) : Composed (enter production)
  | leave : Composed leave
  | leaving {α : Type} {action : Parse α} (h : Composed action) : Composed (leaving action)
  | atEnd : Composed atEnd
  | nextIs (accept : Token → Bool) : Composed (nextIs accept)
  | expect (accept : Token → Bool) (expected : Expectation) : Composed (expect accept expected)
  | choice_advance {α : Type} (accept : Token → Bool) {next : Token → Parse α}
      {otherwise : Parse α} (hnext : ∀ token, Composed (next token))
      (hotherwise : Composed otherwise) :
      Composed (do if ← Parse.nextIs accept then next (← advance) else otherwise)
  | collectFrom {α : Type} {stop : Parse Bool} {test : Option Token → Bool}
      {action : Parse (Option α)} (hstop : Composed stop) (hdecides : Decides stop test)
      (haction : Composed action) (hprogress : Progresses action) (found : List α) :
      Composed (collectFrom stop action found)

namespace Composed

/-- A choice between composed actions is composed. -/
theorem ite {α : Type} {test : Bool} {left right : Parse α} (hleft : Composed left)
    (hright : Composed right) : Composed (if test = true then left else right) := by
  cases test with
  | true => exact hleft
  | false => exact hright

/-- Choosing between two actions by the next token. -/
theorem choice {α : Type} (accept : Token → Bool) {left right : Parse α} (hleft : Composed left)
    (hright : Composed right) : Composed (do if ← Parse.nextIs accept then left else right) :=
  (nextIs accept).bind fun _ => hleft.ite hright

end Composed

/-! ## Productions -/

/-- Reading an identifier is composed of the basic actions. -/
theorem identifier_composed (expected : Expectation) : Composed (identifier expected) :=
  (Composed.expect _ _).bind fun _ => .pure _

/-- Reading the name of a type is composed of the basic actions. -/
theorem typeName_composed (expected : Expectation) : Composed (typeName expected) :=
  (Composed.expect _ _).bind fun _ => .pure _

/-- Reading an expression is composed of the basic actions. -/
theorem expression_composed : Composed expression :=
  (Composed.expect _ _).bind fun _ => .pure _

/-- Reading an argument is composed of the basic actions. -/
theorem argument_composed : Composed argument :=
  (Composed.enter _).bind fun _ => (identifier_composed _).bind fun _ =>
    (typeName_composed _).bind fun _ => Composed.leave.bind fun _ => .pure _

/-- Reading a declaration is composed of the basic actions. -/
theorem declaration_composed : Composed declaration :=
  (Composed.enter _).bind fun _ => (Composed.expect _ _).bind fun _ =>
    (identifier_composed _).bind fun _ => (typeName_composed _).bind fun _ =>
    .choice_advance _
      (fun _ => expression_composed.bind fun _ => Composed.leave.bind fun _ => .pure _)
      (Composed.leave.bind fun _ => .pure _)

/-- Testing whether a block ends is composed of the basic actions. -/
theorem blockEnds_composed : Composed blockEnds :=
  Composed.atEnd.bind fun _ => .ite (.pure _) (.nextIs _)

section block

variable {statement : Parse (Option Statement)} (hstatement : Composed statement)
  (hprogress : Progresses statement)

include hstatement hprogress

/-- Reading a block is composed of the basic actions if reading its statements is, and they use up
what is left. -/
theorem block_composed (role : BlockRole) : Composed (block statement role) :=
  (Composed.enter _).bind fun _ => (Composed.expect _ _).bind fun _ =>
    (Composed.collectFrom blockEnds_composed blockEnds_decides hstatement hprogress []).bind
      fun _ => (Composed.expect _ _).bind fun _ => Composed.leave.bind fun _ => .pure _

/-- Reading the branches of a conditional is composed of the basic actions if reading their
statements is. -/
theorem branches_composed : Composed (branches statement) :=
  expression_composed.bind fun _ => (block_composed hstatement hprogress _).bind fun _ =>
    .choice_advance _ (fun _ => (block_composed hstatement hprogress _).bind fun _ => .pure _)
      (.pure _)

/-- Reading a conditional is composed of the basic actions if reading its statements is. -/
theorem conditional_composed : Composed (conditional (some statement)) :=
  (Composed.enter _).bind fun _ => (Composed.expect _ _).bind fun _ =>
    .leaving (branches_composed hstatement hprogress)

end block

/-- Refusing a conditional that lies too deep is composed of the basic actions. -/
theorem conditional_none_composed : Composed (conditional none) :=
  (Composed.enter _).bind fun _ => (Composed.expect _ _).bind fun _ => .throw _ (by simp)

/-- Reading an expression with its semicolon is composed of the basic actions. -/
theorem expressionStatement_composed : Composed expressionStatement :=
  (Composed.enter _).bind fun _ => expression_composed.bind fun _ =>
    (Composed.expect _ _).bind fun _ => Composed.leave.bind fun _ => .pure _

/-- Reading a statement is composed of the basic actions if reading a conditional is. -/
theorem statementWith_composed {nested : Option (Parse (Option Statement))}
    (hconditional : Composed (conditional nested)) : Composed (statementWith nested) :=
  .choice _ (declaration_composed.bind fun _ => .pure _) <|
    .choice _ (hconditional.bind fun _ => .pure _) <|
    .choice_advance _ (fun _ => .pure _) (expressionStatement_composed.bind fun _ => .pure _)

/-- Reading a statement leaves less to read, however deep it lies. -/
theorem statement_progresses {levels outer : Nat} (h : outer + levels = Limits.nestingDepth) :
    Progresses (statement levels) :=
  (statement_follows h).progresses fun _ _ hphrase => by
    obtain ⟨first, rest, rfl, -⟩ := statementOf_first hphrase
    exact List.cons_ne_nil first rest

/-- Reading a statement is composed of the basic actions, however deep it lies. -/
theorem statement_composed {levels : Nat} (h : levels ≤ Limits.nestingDepth) :
    Composed (statement levels) := by
  induction levels with
  | zero => exact statementWith_composed conditional_none_composed
  | succ levels ih =>
    have hlevels : Limits.nestingDepth - levels + levels = Limits.nestingDepth := by omega
    exact statementWith_composed
      (conditional_composed (ih (by omega)) (statement_progresses hlevels))

/-- Reading further arguments is composed of the basic actions. -/
theorem argumentsFrom_composed (function : Identifier) (found : List Argument) (allowed : Nat) :
    Composed (argumentsFrom function found allowed) := by
  induction allowed generalizing found with
  | zero => exact argument_composed.bind fun _ => .throw _ (by simp)
  | succ allowed ih =>
    exact argument_composed.bind fun argument =>
      .choice_advance _ (fun _ => ih (argument :: found)) (.pure _)

/-- Reading the arguments of a function is composed of the basic actions. -/
theorem arguments_composed (function : Identifier) : Composed (arguments function) :=
  .choice _ (.pure _) (argumentsFrom_composed function [] _)

/-- Reading the type that a function returns is composed of the basic actions. -/
theorem returnType_composed : Composed returnType :=
  .choice _ (.pure _) ((typeName_composed _).bind fun _ => .pure _)

/-- Reading a function is composed of the basic actions. -/
theorem function_composed : Composed function :=
  (Composed.enter _).bind fun _ => (Composed.expect _ _).bind fun _ =>
    (identifier_composed _).bind fun identifier => (Composed.expect _ _).bind fun _ =>
    (arguments_composed identifier).bind fun _ => (Composed.expect _ _).bind fun _ =>
    returnType_composed.bind fun _ =>
    (block_composed (statement_composed (Nat.le_refl _)) (statement_progresses (Nat.zero_add _))
      _).bind fun _ => Composed.leave.bind fun _ => .pure _

/-- Reading a part of a program is composed of the basic actions. -/
theorem topLevel_composed : Composed topLevel :=
  .choice _ (function_composed.bind fun _ => .pure _)
    ((statement_composed (Nat.le_refl _)).bind fun _ => .pure _)

/-- Reading a part of a program leaves less to read. -/
theorem topLevel_progresses : Progresses topLevel :=
  topLevel_follows.progresses fun _ _ hphrase => by
    obtain ⟨first, rest, rfl, -⟩ := topLevelOf_first hphrase
    exact List.cons_ne_nil first rest

/-- Reading a program is composed of the basic actions. -/
theorem program_composed : Composed program :=
  (Composed.enter _).bind fun _ =>
    (Composed.collectFrom .atEnd atEnd_decides topLevel_composed topLevel_progresses []).bind
      fun _ => Composed.leave.bind fun _ => .pure _

end Parse

end VinylSyntax
