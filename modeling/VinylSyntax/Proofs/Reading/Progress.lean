import VinylSyntax.Proofs.Reading.Performing

/-!
# Every loop of the parser makes progress

The script of a program performs reading a program: production by production, its plain loops and
calls end where the bounded ones of the parser end. So a run of it tells how the parser reads.
`parsing_progresses` is what that comes to: every loop and every production takes tokens, none of
them twice, and conditionals nest no deeper than the limit and the one that it refuses.
-/

namespace VinylSyntax

namespace Script

open Parse (Progresses)

variable {α : Type} {frames depth : Nat} {parser : Parser}

/-! ## Productions -/

/-- The script of an identifier performs reading one. -/
theorem identifier_performs (expected : Expectation) :
    Performs frames depth (identifier expected) (Parse.identifier expected) :=
  (expect_performs _ _).bind fun _ => performs_pure _

/-- The script of the name of a type performs reading one. -/
theorem typeName_performs (expected : Expectation) :
    Performs frames depth (typeName expected) (Parse.typeName expected) :=
  (expect_performs _ _).bind fun _ => performs_pure _

/-- The script of an expression performs reading one. -/
theorem expression_performs : Performs frames depth expression Parse.expression :=
  (expect_performs _ _).bind fun _ => performs_pure _

/-- The script of an argument performs reading one. -/
theorem argument_performs : Performs frames depth argument Parse.argument :=
  .entering <| (identifier_performs _).bind fun _ => (typeName_performs _).bind fun _ =>
    performs_leave _

/-- The script of a declaration performs reading one. -/
theorem declaration_performs : Performs frames depth declaration Parse.declaration :=
  .entering <| (expect_performs _ _).bind fun _ => (identifier_performs _).bind fun _ =>
    (typeName_performs _).bind fun _ =>
    .choice_advance (fun _ => expression_performs.bind fun _ => performs_leave _) (performs_leave _)

/-- The script of an expression with its semicolon performs reading one. -/
theorem expressionStatement_performs :
    Performs frames depth expressionStatement Parse.expressionStatement :=
  .entering <| expression_performs.bind fun _ => (expect_performs _ _).bind fun _ =>
    performs_leave _

/-- The script that tests for the end of a block performs the test. -/
theorem blockEnds_performs : Performs frames depth blockEnds Parse.blockEnds :=
  atEnd_performs.bind fun _ => (performs_pure _).ite (nextIs_performs _)

section block

variable {statement' : Parse (Option Statement)}
  (hstatement : Performs frames depth (Script.statement id) statement')
  (hprogress : Progresses statement')

include hstatement hprogress

/-- The script of a block performs reading one if that of a statement does. -/
theorem block_performs (role : BlockRole) :
    Performs frames depth (block role) (Parse.block statement' role) :=
  .entering <| (expect_performs _ _).bind fun _ =>
    (collect_performs (by decide) blockEnds_performs Parse.blockEnds_decides hstatement
      hprogress).bind fun _ => (expect_performs _ _).bind fun _ => performs_leave _

/-- The script of the branches of a conditional performs reading them if that of a statement
does. -/
theorem branches_performs : Performs frames depth branches (Parse.branches statement') :=
  expression_performs.bind fun _ => (block_performs hstatement hprogress _).bind fun _ =>
    .choice_advance (fun _ => (block_performs hstatement hprogress _).bind fun _ => performs_pure _)
      (performs_pure _)

end block

/-! ## Conditionals -/

/-- A script that asks for the number of open conditionals is told it. -/
theorem Performs.asking {next : Nat → Script α} {action : Parse α}
    (h : Performs frames depth (next depth) action) :
    Performs frames depth (Script.depth id >>= next) action := by
  intro parser
  obtain ⟨marks, hruns, hsound, hstops⟩ := h parser
  exact ⟨[] ++ marks, .andThen .depth hruns, hsound, hstops⟩

/-- Where as many conditionals are open as may be nested, a further one is refused. -/
theorem conditional_none_performs :
    Performs frames Limits.nestingDepth conditional (Parse.conditional none) :=
  .entering <| (expect_performs _ _).bind fun _ => .asking <| by
    rw [if_pos (Nat.le_refl _)]
    exact performs_fail fun _ => trivial

/-- Where fewer are open, the branches are read one level deeper. -/
theorem conditional_some_performs (hdepth : depth < Limits.nestingDepth)
    {statement' : Parse (Option Statement)}
    (hstatement : Performs frames (depth + 1) (Script.statement id) statement')
    (hprogress : Progresses statement') :
    Performs frames depth conditional (Parse.conditional (some statement')) :=
  .entering <| (expect_performs _ _).bind fun _ => .asking <| by
    rw [if_neg (Nat.not_le.2 hdepth)]
    exact (branches_performs hstatement hprogress).leaving

/-! ## Statements -/

/-- The script of a statement performs reading one if that of a conditional does. -/
theorem statementBody_performs {nested : Option (Parse (Option Statement))}
    (hconditional : Performs frames depth (Script.call .conditional conditional)
      (Parse.conditional nested)) :
    Performs frames depth statementBody (Parse.statementWith nested) :=
  .choice (declaration_performs.bind fun _ => performs_pure _) <|
    .choice (hconditional.bind fun _ => performs_pure _) <|
    .choice_advance (fun _ => performs_pure _)
      (expressionStatement_performs.bind fun _ => performs_pure _)

/-- Statements that lie in `depth` conditionals, all of which are being read, call each other on the
levels that are left. -/
theorem statement_performs {levels : Nat} (h : depth + levels = Limits.nestingDepth) :
    Performs depth depth (Script.statement id) (Parse.statement levels) := by
  have hprogress := Parse.statement_progresses h
  induction levels generalizing depth with
  | zero =>
    obtain rfl : depth = Limits.nestingDepth := h
    refine .statement (.call (Nat.le_succ _) hprogress <| statementBody_performs ?_)
    refine .call (Nat.le_refl _) (Parse.conditional_progresses Parse.conditional_overrun) ?_
    exact conditional_none_performs
  | succ levels ih =>
    have hdepth : depth < Limits.nestingDepth := by omega
    have hinner : depth + 1 + levels = Limits.nestingDepth := by omega
    have hfollows := Parse.conditional_follows hdepth (Parse.statement_follows hinner)
    have hnested := Parse.statement_progresses hinner
    refine .statement (.call (Nat.le_succ_of_le (Nat.le_of_lt hdepth)) hprogress <|
      statementBody_performs ?_)
    refine .call (Nat.le_succ_of_le hdepth) (Parse.conditional_progresses hfollows) ?_
    exact conditional_some_performs hdepth (ih hinner hnested) hnested

/-! ## Programs -/

/-- The script that goes on behind an argument performs going on there. -/
theorem moreArguments_performs (function : Identifier) (found : List Argument) :
    Performs frames depth (moreArguments function found) (Parse.moreArguments function found) :=
  (performs_fail fun _ => trivial : Performs _ _ (fail (.tooManyArguments _ _ _ _)) _).ite
    (.choice_advance (fun _ => performs_pure _) (performs_pure _))

/-- The script of an argument and those behind it performs reading them. -/
theorem nextArgument_performs (function : Identifier) (found : List Argument) :
    Performs 0 depth (nextArgument function found) (Parse.nextArgument function found) :=
  (Performs.call (Nat.zero_le _) Parse.argument_progresses argument_performs).bind fun argument =>
    moreArguments_performs function (argument :: found)

/-- Whether arguments go on or end, behind an argument there is less to read. -/
theorem allowance_lt_of_nextArgument {function : Identifier} {found : List Argument}
    {ended : List Argument ⊕ List Argument} {behind : Parser}
    (h : Parse.nextArgument function found parser = .ok ended behind) :
    behind.allowance < parser.allowance := by
  obtain ⟨argument, ready, hargument, hmore⟩ := Parse.bind_eq_ok h
  have hperforms := @moreArguments_performs 0 0 function (argument :: found) ready
  exact Nat.lt_of_le_of_lt (hperforms.allowance_le hmore)
    (Parse.argument_progresses _ _ _ hargument)

/-- Reading arguments is a loop that counts what it found. -/
theorem argumentsFrom_performs (function : Identifier) {found : List Argument} {allowed : Nat}
    (h : found.length + allowed = Limits.argumentCount) :
    Performs 0 depth (loop .arguments (nextArgument function) found)
      (Parse.argumentsFrom function found allowed) := by
  induction allowed generalizing found with
  | zero =>
    intro parser
    refine .of_eq (.loop (nextArgument_performs function found parser)
      (fun next behind hnext => ?_) fun _ _ _ => allowance_lt_of_nextArgument)
      (congrFun (Parse.argumentsFrom_eq_round function h) parser)
    -- One more argument is too many.
    obtain ⟨argument, ready, -, hmore⟩ := Parse.bind_eq_ok hnext
    obtain ⟨-, hcount⟩ := Parse.moreArguments_eq_ok hmore
    rw [List.length_cons] at hcount
    omega
  | succ allowed ih =>
    intro parser
    refine .of_eq (.loop (nextArgument_performs function found parser)
      (fun next behind hnext => ⟨allowance_lt_of_nextArgument hnext, ?_⟩)
      fun _ _ _ => allowance_lt_of_nextArgument)
      (congrFun (Parse.argumentsFrom_eq_round function h) parser)
    obtain ⟨argument, ready, -, hmore⟩ := Parse.bind_eq_ok hnext
    obtain ⟨rfl, -⟩ := Parse.moreArguments_eq_ok hmore
    exact ih (by rw [List.length_cons]; omega) behind

/-- The script of the arguments of a function performs reading them. -/
theorem arguments_performs (function : Identifier) :
    Performs 0 depth (arguments function) (Parse.arguments function) :=
  .choice (performs_pure _) (argumentsFrom_performs function (Nat.zero_add _))

/-- The script of a return type performs reading one. -/
theorem returnType_performs : Performs frames depth returnType Parse.returnType :=
  .choice (performs_pure _) ((typeName_performs _).bind fun _ => performs_pure _)

/-- The script of a function performs reading one. -/
theorem function_performs : Performs 0 0 function Parse.function :=
  .entering <| (expect_performs _ _).bind fun _ => (identifier_performs _).bind fun identifier =>
    (expect_performs _ _).bind fun _ => (arguments_performs identifier).bind fun _ =>
    (expect_performs _ _).bind fun _ => returnType_performs.bind fun _ =>
    (block_performs (statement_performs (Nat.zero_add _))
      (Parse.statement_progresses (Nat.zero_add _)) _).bind fun _ => performs_leave _

/-- The script of a part of a program performs reading one. -/
theorem topLevel_performs : Performs 0 0 topLevel Parse.topLevel :=
  .choice
    ((Performs.call (Nat.zero_le _) Parse.function_progresses function_performs).bind
      fun _ => performs_pure _)
    ((statement_performs (Nat.zero_add _)).bind fun _ => performs_pure _)

/-- The script of a program does what reading a program does. -/
theorem program_performs : Performs 0 0 program Parse.program :=
  .entering <| .before_leave <| collect_performs (by decide) atEnd_performs Parse.atEnd_decides
    topLevel_performs Parse.topLevel_progresses

end Script

namespace Parser

/-- What parsing ends in, seen as what a run ends in. -/
def outcome (parser : Parser) : Reader.Result (List TopLevel) :=
  match parser.parse with
  | (.ok parts, behind) => .ok parts ⟨behind.tokens, 0⟩
  | (.error error, behind) => .error error ⟨behind.tokens, 0⟩

/-- What parsing ends in is what reading a program ends in, with no conditional open. -/
theorem outcome_eq (parser : Parser) :
    parser.outcome = Script.outcome 0 (Parse.program parser) := by
  unfold outcome parse
  cases Parse.program parser <;> rfl

/-- Parsing ends in front of the tokens that the parser is left with. -/
theorem tokens_outcome (parser : Parser) :
    parser.outcome.reader.tokens = parser.parse.2.tokens := by
  unfold outcome
  split <;> simp_all [Reader.Result.reader]

/-- Parsing ends with the answer that the parser gives. -/
theorem answer_outcome (parser : Parser) : parser.outcome.answer = parser.parse.1 := by
  unfold outcome
  split <;> simp_all [Reader.Result.answer]

/-- The script of a program runs to what parsing ends in. -/
theorem runs_outcome (parser : Parser) :
    ∃ marks, Script.Runs Script.program 0 ⟨parser.tokens, 0⟩ marks parser.outcome ∧
      ∀ mark ∈ marks, mark.Sound := by
  obtain ⟨marks, hruns, hsound, -⟩ := Script.program_performs parser
  exact ⟨marks, parser.outcome_eq ▸ hruns, hsound⟩

end Parser

/-- Parsing ends, from every state of a parser: the script of a program, with its plain loops and
calls, has one run, and it ends as parsing does. In that run every completed round of a loop takes a
token, and so does every statement, conditional, function and argument that is read; no more
conditionals are read inside one another than may be nested, and one that is refused. The tokens
taken are the first ones of those left to read, each of them once, so that there are no more reads
than tokens. -/
theorem parsing_progresses (parser : Parser) :
    ∃ marks,
      (∀ marks' result, Script.Runs Script.program 0 ⟨parser.tokens, 0⟩ marks' result ↔
        marks' = marks ∧ result = parser.outcome) ∧
      (∀ loop taken, .repeated loop taken ∈ marks → 1 ≤ taken) ∧
      (∀ routine taken, .returned routine taken ∈ marks → 1 ≤ taken) ∧
      (∀ routine frames, .called routine frames ∈ marks → frames ≤ Limits.nestingDepth + 1) ∧
      parser.tokens.sequence = Mark.tokens marks ++ parser.parse.2.tokens.sequence ∧
      (Mark.tokens marks).length ≤ parser.tokens.sequence.length := by
  obtain ⟨marks, hruns, hsound⟩ := parser.runs_outcome
  have hsequence : parser.tokens.sequence =
      Mark.tokens marks ++ parser.parse.2.tokens.sequence := by
    rw [← parser.tokens_outcome]
    exact hruns.takes.sequence_eq
  refine ⟨marks, fun marks' result => ⟨hruns.unique, ?_⟩, fun _ _ => hsound _, fun _ _ => hsound _,
    fun _ _ => hsound _, hsequence, ?_⟩
  · rintro ⟨rfl, rfl⟩
    exact hruns
  · rw [hsequence, List.length_append]
    exact Nat.le_add_right _ _

end VinylSyntax
