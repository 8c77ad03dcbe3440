import VinylSyntax.Proofs.Reading.Rounds
import VinylSyntax.Proofs.Reading.Script

/-!
# Scripts that do what the parser does

A script performs an action of the parser (`Script.Performs`) if from every state it has a run that
ends as the action does, with sound marks: every completed round of a loop and every call that
returned took a token, and no call is nested too deep. If the action fails, the lookahead still
holds what the error is about. The relation is put together along the actions; entering and leaving
productions has no part in a script.
-/

namespace VinylSyntax

/-- A round of a loop and a call that returned took a token, and no call is nested too deep. -/
def Mark.Sound : Mark → Prop
  | .took _ => True
  | .called _ frames => frames ≤ Limits.nestingDepth + 1
  | .returned _ taken => 1 ≤ taken
  | .repeated _ taken => 1 ≤ taken

/-- The lookahead that an error leaves behind holds what the error is about, unless a limit was
broken. -/
def SyntaxError.LeftAt (tokens : Lookahead) : SyntaxError → Prop
  | .unexpectedToken _ token => tokens.pending = some (.ok token)
  | .unexpectedEnd _ _ => tokens.pending = none
  | .lexical error => tokens.pending = some (.error error)
  | .nestingTooDeep _ _ => True
  | .tooManyArguments _ _ _ _ => True

namespace Script

open Parse (bind_ok bind_error Progresses Decides)

variable {α β σ : Type} {frames depth : Nat} {parser : Parser}

/-- What an action of the parser ends in, seen as what a run ends in, where a number of conditionals
is open. -/
def outcome (depth : Nat) : EStateM.Result SyntaxError Parser α → Reader.Result α
  | .ok value behind => .ok value ⟨behind.tokens, depth⟩
  | .error error stuck => .error error ⟨stuck.tokens, depth⟩

/-- If an action fails, the lookahead still holds what the error is about. -/
def Stops : EStateM.Result SyntaxError Parser α → Prop
  | .ok _ _ => True
  | .error error stuck => error.LeftAt stuck.tokens

/-- From a state of the parser, a script runs to what an action ends in, and leaves sound marks. -/
def PerformsAt (frames depth : Nat) (script : Script α) (action : Parse α) (parser : Parser) :
    Prop :=
  ∃ marks, Runs script frames ⟨parser.tokens, depth⟩ marks (outcome depth (action parser)) ∧
    (∀ mark ∈ marks, mark.Sound) ∧ Stops (action parser)

/-- From every state of the parser, where `depth` conditionals are open and `frames` are being read,
a script does what an action does. -/
def Performs (frames depth : Nat) (script : Script α) (action : Parse α) : Prop :=
  ∀ parser, PerformsAt frames depth script action parser

/-- What a script performs depends on what the action does at the place only. -/
theorem PerformsAt.of_eq {script : Script α} {action other : Parse α}
    (h : PerformsAt frames depth script action parser) (heq : other parser = action parser) :
    PerformsAt frames depth script other parser := by
  rw [PerformsAt, heq]
  exact h

/-- Behind an action there is no more to read than in front of it. -/
theorem PerformsAt.allowance_le {script : Script α} {action : Parse α} {value : α}
    {behind : Parser} (h : PerformsAt frames depth script action parser)
    (hresult : action parser = .ok value behind) : behind.allowance ≤ parser.allowance := by
  obtain ⟨marks, hruns, -, -⟩ := h
  rw [hresult] at hruns
  exact hruns.takes.allowance_le

/-! ## Composition -/

/-- Returning a value performs returning it. -/
theorem performs_pure (value : α) : Performs frames depth (pure value) (pure value) := fun _ =>
  ⟨[], .done, by simp, trivial⟩

/-- Breaking a limit leaves nothing in particular. -/
theorem performs_fail {error : SyntaxError} (h : ∀ tokens, error.LeftAt tokens) :
    Performs frames depth (fail error : Script α) (throw error) := fun _ =>
  ⟨[], .fail, by simp, h _⟩

section compose

variable {script : Script α} {action : Parse α} {next : α → Script β} {next' : α → Parse β}

/-- Scripts behind one another perform actions behind one another, where the second does so behind
what the first reads. -/
theorem PerformsAt.bind (h : PerformsAt frames depth script action parser)
    (hnext : ∀ value behind, action parser = .ok value behind →
      PerformsAt frames depth (next value) (next' value) behind) :
    PerformsAt frames depth (script >>= next) (action >>= next') parser := by
  obtain ⟨front, hfront, hsound, hstops⟩ := h
  cases hresult : action parser with
  | ok value behind =>
    obtain ⟨back, hback, hsound', hstops'⟩ := hnext value behind hresult
    rw [hresult] at hfront
    rw [PerformsAt, bind_ok hresult]
    exact ⟨front ++ back, .andThen hfront hback, List.forall_mem_append.2 ⟨hsound, hsound'⟩,
      hstops'⟩
  | error error stuck =>
    rw [hresult] at hfront hstops
    rw [PerformsAt, bind_error hresult]
    exact ⟨front, .andThen_error hfront, hsound, hstops⟩

/-- Scripts that perform actions do so behind one another. -/
theorem Performs.bind (h : Performs frames depth script action)
    (hnext : ∀ value, Performs frames depth (next value) (next' value)) :
    Performs frames depth (script >>= next) (action >>= next') := fun parser =>
  (h parser).bind fun value behind _ => hnext value behind

/-- A choice between scripts performs the choice between their actions. -/
theorem Performs.ite {test : Prop} [Decidable test] {otherwise : Script α} {otherwise' : Parse α}
    (htrue : Performs frames depth script action)
    (hfalse : Performs frames depth otherwise otherwise') :
    Performs frames depth (if test then script else otherwise)
      (if test then action else otherwise') := by
  split
  · exact htrue
  · exact hfalse

/-- An action in front that reads nothing has no part in the script. -/
theorem Performs.behind {quiet : Parse Unit} {continuation : Unit → Parse α}
    (hquiet : ∀ parser, ∃ ready, quiet parser = .ok () ready ∧ ready.tokens = parser.tokens)
    (h : Performs frames depth script (continuation ())) :
    Performs frames depth script (quiet >>= continuation) := by
  intro parser
  obtain ⟨ready, hready, htokens⟩ := hquiet parser
  have hat := h ready
  rw [PerformsAt, htokens] at hat
  rw [PerformsAt, bind_ok hready]
  exact hat

/-- Entering a production in front of an action leaves what a script performs as it is. -/
theorem Performs.entering {production : Production}
    (h : Performs frames depth script action) :
    Performs frames depth script (do Parse.enter production; action) :=
  .behind (fun _ => ⟨_, rfl, Parser.tokens_trace _ _⟩) h

/-- Returning a value performs leaving a production and returning it. -/
theorem performs_leave (value : α) :
    Performs frames depth (pure value) (do Parse.leave; return value) :=
  .behind (fun _ => ⟨_, rfl, rfl⟩) (performs_pure value)

/-- Leaving a production behind an action leaves what a script performs as it is. -/
theorem Performs.before_leave (h : Performs frames depth script action) :
    Performs frames depth script (do let value ← action
                                     Parse.leave
                                     return value) := by
  intro parser
  obtain ⟨marks, hruns, hsound, hstops⟩ := h parser
  cases hresult : action parser with
  | ok value behind =>
    rw [hresult] at hruns
    rw [PerformsAt, bind_ok hresult]
    exact ⟨marks, hruns, hsound, trivial⟩
  | error error stuck =>
    rw [hresult] at hruns hstops
    rw [PerformsAt, bind_error hresult]
    exact ⟨marks, hruns, hsound, hstops⟩

/-- The conditional that is left behind an action is the one that is closed. -/
theorem Performs.leaving (h : Performs frames (depth + 1) script action) :
    Performs frames depth (deeper script) (Parse.leaving action) := by
  intro parser
  obtain ⟨marks, hruns, hsound, hstops⟩ := h parser
  have hclosed : Runs (deeper script) frames ⟨parser.tokens, depth⟩ marks _ := .deeper hruns
  unfold PerformsAt Parse.leaving
  cases hresult : action parser with
  | ok value behind =>
    rw [hresult] at hclosed
    exact ⟨marks, hclosed, hsound, trivial⟩
  | error error stuck =>
    rw [hresult] at hclosed hstops
    exact ⟨marks, hclosed, hsound, hstops⟩

/-- A call that is not nested too deep, of what takes a token whenever it succeeds. -/
theorem Performs.call {routine : Routine}
    (hframes : frames + routine.frames ≤ Limits.nestingDepth + 1) (hprogress : Progresses action)
    (h : Performs (frames + routine.frames) depth script action) :
    Performs frames depth (call routine script) action := by
  intro parser
  obtain ⟨marks, hruns, hsound, hstops⟩ := h parser
  refine ⟨_, hruns.call, ?_, hstops⟩
  refine List.forall_mem_cons.2 ⟨hframes, List.forall_mem_append.2 ⟨hsound, ?_⟩⟩
  cases hresult : action parser with
  | ok value behind =>
    rw [hresult] at hruns
    have htaken := hruns.takes.length_pos (hprogress parser value behind hresult)
    exact List.forall_mem_singleton.2 htaken
  | error error stuck => exact List.forall_mem_nil _

/-- The call of a statement from within one is marked as any other. -/
theorem Performs.statement {action : Parse (Option Statement)}
    (h : Performs frames depth (Script.call .statement statementBody) action) :
    Performs frames depth (Script.statement id) action := by
  intro parser
  obtain ⟨marks, hruns, hsound, hstops⟩ := h parser
  have hstatement : Runs (Script.statement id) frames _ marks _ := .statement hruns
  rw [Reader.Result.map_id] at hstatement
  exact ⟨marks, hstatement, hsound, hstops⟩

/-- A loop whose rounds do what `turn` does, and that goes on as `again` does. A round that is
completed reads a token. -/
theorem PerformsAt.loop {name : Loop} {round : σ → Script (σ ⊕ α)} {state : σ}
    {turn : Parse (σ ⊕ α)} {again : σ → Parse α}
    (hround : PerformsAt frames depth (round state) turn parser)
    (hagain : ∀ next behind, turn parser = .ok (.inl next) behind →
      behind.allowance < parser.allowance ∧
        PerformsAt frames depth (Script.loop name round next) (again next) behind)
    (hlast : name = .arguments → ∀ value behind, turn parser = .ok (.inr value) behind →
      behind.allowance < parser.allowance) :
    PerformsAt frames depth (Script.loop name round state) (Parse.round turn again) parser := by
  obtain ⟨front, hfront, hsound, hstops⟩ := hround
  cases hresult : turn parser with
  | error error stuck =>
    rw [hresult] at hfront hstops
    rw [PerformsAt, Parse.round, bind_error hresult]
    exact ⟨front, .loop_error hfront, hsound, hstops⟩
  | ok ended behind =>
    rw [hresult] at hfront
    rw [PerformsAt, Parse.round, bind_ok hresult]
    cases ended with
    | inr value =>
      refine ⟨_, .loop_end hfront, List.forall_mem_append.2 ⟨hsound, ?_⟩, trivial⟩
      cases name with
      | arguments =>
        have htaken := hfront.takes.length_pos (hlast rfl value behind hresult)
        exact List.forall_mem_singleton.2 htaken
      | comments | block | program => exact List.forall_mem_nil _
    | inl next =>
      obtain ⟨hlt, back, hback, hsound', hstops'⟩ := hagain next behind hresult
      have htaken : 1 ≤ (Mark.tokens front).length := hfront.takes.length_pos hlt
      exact ⟨_, .loop_again hfront hback,
        List.forall_mem_append.2 ⟨hsound, List.forall_mem_cons.2 ⟨htaken, hsound'⟩⟩, hstops'⟩

end compose

/-! ## Tokens -/

section tokens

variable {reader : Reader} {token : Token} {error : LexicalError} {give : Option Token → α}

/-- Looking at a token gives it, and leaves no mark. -/
theorem runs_peek_token (h : reader.tokens.pending = some (.ok token)) :
    Runs (peek give) frames reader [] (.ok (give (some token)) reader) := by
  have hpeek : reader.peek = .ok (some token) reader := by simp [Reader.peek, Lookahead.peek, h]
  have hruns := @Runs.peek _ frames reader give
  rwa [hpeek] at hruns

/-- Looking at the end gives nothing, and leaves no mark. -/
theorem runs_peek_end (h : reader.tokens.pending = none) :
    Runs (peek give) frames reader [] (.ok (give none) reader) := by
  have hpeek : reader.peek = .ok none reader := by simp [Reader.peek, Lookahead.peek, h]
  have hruns := @Runs.peek _ frames reader give
  rwa [hpeek] at hruns

/-- Looking at an error of the lexer fails with it. -/
theorem runs_peek_error (h : reader.tokens.pending = some (.error error)) :
    Runs (peek give) frames reader [] (.error (.lexical error) reader) := by
  have hpeek : reader.peek = .error (.lexical error) reader := by
    simp [Reader.peek, Lookahead.peek, h]
  have hruns := @Runs.peek _ frames reader give
  rwa [hpeek] at hruns

/-- Taking a token gives it, marks it as taken and reads on. -/
theorem runs_take_token (h : reader.tokens.pending = some (.ok token)) :
    Runs (take give) frames reader [.took token]
      (.ok (give (some token)) { reader with tokens := reader.tokens.read.lookahead }) := by
  have hread : reader.tokens.read.result = .ok (some token) := by simp [Lookahead.read, h]
  have hruns := @Runs.take _ frames reader give
  simpa only [Reader.take, Reader.taken, hread, Reader.Result.map] using hruns

/-- Taking at the end gives nothing, and leaves no mark. -/
theorem runs_take_end (h : reader.tokens.pending = none) :
    Runs (take give) frames reader [] (.ok (give none) reader) := by
  have hruns := @Runs.take _ frames reader give
  simpa only [Reader.take, Reader.taken, Lookahead.read, h, Reader.Result.map] using hruns

/-- Taking at an error of the lexer fails with it. -/
theorem runs_take_error (h : reader.tokens.pending = some (.error error)) :
    Runs (take give) frames reader [] (.error (.lexical error) reader) := by
  have hruns := @Runs.take _ frames reader give
  simpa only [Reader.take, Reader.taken, Lookahead.read, h, Reader.Result.map] using hruns

end tokens

/-- Looking at the next token performs what the parser does. -/
theorem peek_performs : Performs frames depth (peek id) Parse.peek := by
  intro parser
  cases hpending : parser.tokens.pending with
  | none =>
    have hpeek : Parse.peek parser = .ok none parser := by
      simp [Parse.peek, Lookahead.peek, hpending]
    rw [PerformsAt, hpeek]
    exact ⟨[], runs_peek_end hpending, by simp, trivial⟩
  | some item =>
    cases item with
    | error error =>
      have hpeek : Parse.peek parser = .error (.lexical error) parser := by
        simp [Parse.peek, Lookahead.peek, hpending]
      rw [PerformsAt, hpeek]
      exact ⟨[], runs_peek_error hpending, by simp, hpending⟩
    | ok token =>
      have hpeek : Parse.peek parser = .ok (some token) parser := by
        simp [Parse.peek, Lookahead.peek, hpending]
      rw [PerformsAt, hpeek]
      exact ⟨[], runs_peek_token hpending, by simp, trivial⟩

/-- Consuming the next token performs what the parser does. -/
theorem advance_performs : Performs frames depth advance Parse.advance := by
  intro parser
  cases hpending : parser.tokens.pending with
  | none =>
    have hadvance : Parse.advance parser =
        .error (.unexpectedEnd .anyToken parser.tokens.location) parser := by
      simp [Parse.advance, Lookahead.read, hpending]
    rw [PerformsAt, hadvance]
    exact ⟨_, .andThen (runs_take_end hpending) (.andThen .location .fail), by simp, hpending⟩
  | some item =>
    cases item with
    | error error =>
      have hadvance : Parse.advance parser = .error (.lexical error) parser := by
        simp [Parse.advance, Lookahead.read, hpending]
      rw [PerformsAt, hadvance]
      exact ⟨_, .andThen_error (runs_take_error hpending), by simp, hpending⟩
    | ok token =>
      have hadvance : Parse.advance parser = .ok token
          (parser.behindToken.trace (parser.behindToken.consumptionEvent token)) := by
        simp [Parse.advance, Lookahead.read, hpending]
      rw [PerformsAt, hadvance, outcome, Parser.tokens_trace]
      exact ⟨_, .andThen (runs_take_token hpending) .done, by simp [Mark.Sound], trivial⟩

/-- Refusing the next token performs what the parser does. -/
theorem unexpected_performs (expected : Expectation) :
    Performs frames depth (unexpected expected : Script α) (Parse.unexpected expected) := by
  intro parser
  cases hpending : parser.tokens.pending with
  | none =>
    have hunexpected : (Parse.unexpected expected : Parse α) parser =
        .error (.unexpectedEnd expected parser.tokens.location) parser := by
      simp [Parse.unexpected, Lookahead.peek, hpending]
    rw [PerformsAt, hunexpected]
    exact ⟨_, .andThen (runs_peek_end hpending) (.andThen .location .fail), by simp, hpending⟩
  | some item =>
    cases item with
    | error error =>
      have hunexpected : (Parse.unexpected expected : Parse α) parser =
          .error (.lexical error) parser := by
        simp [Parse.unexpected, Lookahead.peek, hpending]
      rw [PerformsAt, hunexpected]
      exact ⟨_, .andThen_error (runs_peek_error hpending), by simp, hpending⟩
    | ok token =>
      have hunexpected : (Parse.unexpected expected : Parse α) parser =
          .error (.unexpectedToken expected token) parser := by
        simp [Parse.unexpected, Lookahead.peek, hpending]
      rw [PerformsAt, hunexpected]
      exact ⟨_, .andThen (runs_peek_token hpending) .fail, by simp, hpending⟩

/-- A comment is taken, and skipping goes on behind it. -/
theorem runs_skipComment {reader : Reader} {token : Token}
    (h : reader.tokens.pending = some (.ok token)) (hcomment : token.isComment = true) :
    Runs skipComment frames reader [.took token]
      (.ok (.inl ()) { reader with tokens := reader.tokens.read.lookahead }) := by
  have htake := @runs_take_token _ frames reader token id h
  show Runs _ _ _ ([] ++ ([.took token] ++ [])) _
  refine .andThen (runs_peek_token h) ?_
  show Runs (if token.isComment = true then _ else _) _ _ _ _
  rw [if_pos hcomment]
  exact .andThen htake .done

/-- In front of anything else, skipping ends without a round. -/
theorem runs_skipComments_end {reader : Reader} {next : Option Token}
    (hpeek : Runs (peek id) frames reader [] (.ok next reader))
    (hcomment : ¬ next.any Token.isComment = true) :
    Runs skipComments frames reader [] (.ok () reader) := by
  have hround : Runs skipComment frames reader ([] ++ []) (.ok (.inr ()) reader) := by
    refine .andThen hpeek ?_
    rw [if_neg hcomment]
    exact .done
  exact @Runs.loop_end _ _ _ _ _ _ .comments (fun _ => skipComment) () _ hround

/-- Passing comments performs what the parser does. -/
theorem skipComments_performs : Performs frames depth skipComments Parse.skipComments := by
  intro parser
  unfold PerformsAt
  fun_induction Parse.skipComments parser with
  | case1 parser hpending =>
    have hend : Runs skipComments frames ⟨parser.tokens, depth⟩ [] _ :=
      runs_skipComments_end (runs_peek_end hpending) (by simp)
    exact ⟨[], hend, by simp, trivial⟩
  | case2 parser error hpending =>
    exact ⟨[], .loop_error (.andThen_error (runs_peek_error hpending)), by simp, hpending⟩
  | case3 parser token hpending hcomment hlt ih =>
    obtain ⟨marks, hruns, hsound, hstops⟩ := ih
    refine ⟨_, .loop_again (runs_skipComment hpending hcomment) hruns, ?_, hstops⟩
    simpa [Mark.Sound] using hsound
  | case4 parser token hpending hcomment =>
    have hend : Runs skipComments frames ⟨parser.tokens, depth⟩ [] _ :=
      runs_skipComments_end (runs_peek_token hpending) (by simpa using hcomment)
    exact ⟨[], hend, by simp, trivial⟩

/-- Testing for the end performs what the parser does. -/
theorem atEnd_performs : Performs frames depth atEnd Parse.atEnd :=
  skipComments_performs.bind fun _ => peek_performs.bind fun _ => performs_pure _

/-- Testing the next token performs what the parser does. -/
theorem nextIs_performs (accept : Token → Bool) :
    Performs frames depth (nextIs accept) (Parse.nextIs accept) :=
  skipComments_performs.bind fun _ => peek_performs.bind fun _ => performs_pure _

/-- Expecting a token performs what the parser does. -/
theorem expect_performs (accept : Token → Bool) (expected : Expectation) :
    Performs frames depth (expect accept expected) (Parse.expect accept expected) :=
  (nextIs_performs accept).bind fun _ => advance_performs.ite (unexpected_performs expected)

/-- Choosing between two actions by the next token. -/
theorem Performs.choice {accept : Token → Bool} {script otherwise : Script α}
    {action otherwise' : Parse α} (h : Performs frames depth script action)
    (hotherwise : Performs frames depth otherwise otherwise') :
    Performs frames depth (do if ← nextIs accept then script else otherwise)
      (do if ← Parse.nextIs accept then action else otherwise') :=
  (nextIs_performs accept).bind fun _ => h.ite hotherwise

/-- Going on behind the next token if it is accepted, and otherwise in another way. -/
theorem Performs.choice_advance {accept : Token → Bool} {next : Token → Script α}
    {next' : Token → Parse α} {otherwise : Script α} {otherwise' : Parse α}
    (h : ∀ token, Performs frames depth (next token) (next' token))
    (hotherwise : Performs frames depth otherwise otherwise') :
    Performs frames depth (do if ← nextIs accept then next (← advance) else otherwise)
      (do if ← Parse.nextIs accept then next' (← Parse.advance) else otherwise') :=
  .choice (advance_performs.bind h) hotherwise

/-! ## Loops -/

/-- Collecting is a loop whose rounds read, so that the guard of the parser never ends it. -/
theorem collect_performs {name : Loop} {stop : Script Bool} {stop' : Parse Bool}
    {test : Option Token → Bool} {item : Script (Option α)} {item' : Parse (Option α)}
    (hname : name ≠ .arguments) (hstop : Performs frames depth stop stop')
    (hdecides : Decides stop' test) (hitem : Performs frames depth item item')
    (hprogress : Progresses item') :
    Performs frames depth (collect name stop item) (Parse.collect stop' item') := by
  suffices h : ∀ found, Performs frames depth (loop name (collectNext stop item) found)
      (Parse.collectFrom stop' item' found) from h []
  intro found parser
  induction hallowance : parser.allowance using Nat.strongRecOn generalizing found parser with
  | ind _ ih =>
    have hround : Performs frames depth (collectNext stop item found)
        (Parse.collectNext stop' item' found) :=
      hstop.bind fun _ => (performs_pure _).ite (hitem.bind fun _ => performs_pure _)
    refine .of_eq ((hround parser).loop (fun next behind hnext => ?_) (absurd · hname))
      (Parse.collectFrom_eq_round hdecides hprogress found parser)
    have hlt := Parse.allowance_lt_of_collectNext hdecides hprogress hnext
    exact ⟨hlt, ih _ (hallowance ▸ hlt) next behind rfl⟩

end Script

end VinylSyntax
