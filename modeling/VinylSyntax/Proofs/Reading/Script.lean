import VinylSyntax.Parser.Basic
import VinylSyntax.Proofs.Requests

/-!
# Parsing as plain loops and calls

The actions of the parser are total functions: a loop ends when a round has read nothing, arguments
are counted down, and statements recur on the levels that are left. A script is the same program
without such bounds. It loops until a test says stop, statements call statements, and one counter
of open conditionals is counted up and down. What a script does is said by the relation
`Script.Runs`, rule by rule; a run leaves a mark for each token taken, for each call, and for each
round of a loop. A script that loops or recurs for ever has no run, and no script has two
(`Script.Runs.unique`).
-/

namespace VinylSyntax

/-! ## Taking tokens -/

namespace Lookahead

/-- Reading again and again takes tokens off a lookahead, one behind the other. -/
inductive Takes : Lookahead → List Token → Lookahead → Prop where
  | refl (lookahead : Lookahead) : Takes lookahead [] lookahead
  | cons {lookahead last : Lookahead} {token : Token} {tokens : List Token}
      (h : lookahead.pending = some (.ok token))
      (hrest : Takes lookahead.read.lookahead tokens last) : Takes lookahead (token :: tokens) last

/-- The tokens left to read, comments included: the one that is held and those of the lexer, up to
the end or the first error. -/
def sequence (lookahead : Lookahead) : List Token :=
  match lookahead.pending with
  | some (.ok token) => token :: lookahead.lexer.takeTokens.tokens
  | _ => []

/-- Holding the next item of a lexer changes nothing about what is left to read. -/
theorem sequence_pending_next (lexer : Lexer) (errorGiven : Bool) :
    (⟨lexer.next.lexer, lexer.next.item, errorGiven⟩ : Lookahead).sequence =
      lexer.takeTokens.tokens := by
  cases hitem : lexer.next.item with
  | none => simp [sequence, Lexer.takeTokens, Lexer.takeTokensFrom_of_none _ _ hitem]
  | some item =>
    cases item with
    | error error => simp [sequence, Lexer.takeTokens, Lexer.takeTokensFrom_of_error _ _ hitem]
    | ok token => simp [sequence, Lexer.takeTokens_cons hitem]

/-- The sequence of tokens begins with the one that is pending. -/
theorem sequence_read {lookahead : Lookahead} {token : Token}
    (h : lookahead.pending = some (.ok token)) :
    lookahead.sequence = token :: lookahead.read.lookahead.sequence := by
  simp only [read, h, sequence_pending_next]
  simp [sequence, h]

/-- What is ahead are the tokens left to read, comments aside. -/
theorem tokens_ahead (lookahead : Lookahead) :
    lookahead.ahead.tokens = lookahead.sequence.filter (!·.isComment) := by
  cases hpending : lookahead.pending with
  | none => simp [ahead, sequence, hpending]
  | some item =>
    cases item with
    | error error => simp [ahead, sequence, hpending]
    | ok token =>
      simp only [ahead, sequence, hpending]
      cases hcomment : token.isComment with
      | true => simp [Ahead.push_comment hcomment, Lexer.ahead, hcomment]
      | false => simp [Ahead.push_token hcomment, Lexer.ahead, hcomment]

namespace Takes

variable {first second third : Lookahead} {tokens others : List Token}

/-- Tokens are taken one stretch behind the other. -/
theorem append (h : Takes first tokens second) (hrest : Takes second others third) :
    Takes first (tokens ++ others) third := by
  induction h with
  | refl => exact hrest
  | cons hpending _ ih => exact .cons hpending (ih hrest)

/-- The tokens that are taken are the first ones of those left to read. -/
theorem sequence_eq (h : Takes first tokens second) :
    first.sequence = tokens ++ second.sequence := by
  induction h with
  | refl => rfl
  | cons hpending _ ih => rw [sequence_read hpending, ih, List.cons_append]

/-- The tokens that are taken are the first ones ahead, comments aside. -/
theorem ahead_eq (h : Takes first tokens second) :
    first.ahead = second.ahead.behind (tokens.filter (!·.isComment)) := by
  induction h with
  | refl => rfl
  | @cons _ _ token _ hpending _ ih =>
    rw [ahead_read hpending, ih]
    cases hcomment : token.isComment with
    | true => simp [Ahead.push_comment hcomment, hcomment]
    | false => simp [Ahead.push_token hcomment, hcomment]

/-- Taking tokens leaves no more to read than there was. -/
theorem allowance_le (h : Takes first tokens second) : second.allowance ≤ first.allowance := by
  induction h with
  | refl => exact Nat.le_refl _
  | cons hpending _ ih => exact Nat.le_trans ih (Nat.le_of_lt (allowance_read_lt hpending))

/-- Where less is left to read, a token was taken. -/
theorem length_pos (h : Takes first tokens second) (hlt : second.allowance < first.allowance) :
    1 ≤ tokens.length := by
  cases h with
  | refl => exact absurd hlt (Nat.lt_irrefl _)
  | cons => exact Nat.le_add_left 1 _

end Takes

end Lookahead

/-! ## Marks -/

/-- A loop of the parser. -/
inductive Loop where
  | comments
  | arguments
  | block
  | program
deriving DecidableEq

/-- A production whose calls are marked. -/
inductive Routine where
  | statement
  | conditional
  | function
  | argument
deriving DecidableEq

/-- The number of conditionals that a call adds to those being read. -/
def Routine.frames : Routine → Nat
  | .conditional => 1
  | _ => 0

/-- What a run of the parser leaves behind. A call is marked with the number of conditionals being
read inside it, and its success, like a completed round of a loop, with the number of tokens taken
there. -/
inductive Mark where
  | took (token : Token)
  | called (routine : Routine) (frames : Nat)
  | returned (routine : Routine) (taken : Nat)
  | repeated (loop : Loop) (taken : Nat)

namespace Mark

/-- The token that a mark stands for. -/
def token? : Mark → Option Token
  | .took token => some token
  | _ => none

/-- The tokens taken among marks. -/
def tokens (marks : List Mark) : List Token := marks.filterMap token?

/-- Without marks there are no tokens. -/
@[simp] theorem tokens_nil : tokens [] = [] := rfl

/-- The tokens of marks behind one another are those of both. -/
@[simp] theorem tokens_append (front back : List Mark) :
    tokens (front ++ back) = tokens front ++ tokens back :=
  List.filterMap_append

/-- The mark of a token that was taken counts it. -/
@[simp] theorem tokens_took (token : Token) (marks : List Mark) :
    tokens (.took token :: marks) = token :: tokens marks := rfl

/-- The mark of a call counts no token. -/
@[simp] theorem tokens_called (routine : Routine) (frames : Nat) (marks : List Mark) :
    tokens (.called routine frames :: marks) = tokens marks := rfl

/-- The mark of a return counts no token. -/
@[simp] theorem tokens_returned (routine : Routine) (taken : Nat) (marks : List Mark) :
    tokens (.returned routine taken :: marks) = tokens marks := rfl

/-- The mark of a round counts no token. -/
@[simp] theorem tokens_repeated (loop : Loop) (taken : Nat) (marks : List Mark) :
    tokens (.repeated loop taken :: marks) = tokens marks := rfl

/-- The mark of the round in which a loop ends. Of the loops, only the one over arguments is left at
the end of a round; the others are left where one would begin. -/
def lastRound (loop : Loop) (taken : Nat) : List Mark :=
  match loop with
  | .arguments => [.repeated .arguments taken]
  | .comments | .block | .program => []

/-- The mark of the last round counts no token. -/
@[simp] theorem tokens_lastRound (loop : Loop) (taken : Nat) :
    tokens (lastRound loop taken) = [] := by
  cases loop <;> rfl

end Mark

/-! ## Scripts -/

/-- A program for the parser. The basic steps look at the next token, take it, ask for the location
or for the number of open conditionals, and each `give` what is made of the answer. `statement` is
the call of a statement from within one. -/
inductive Script : Type → Type 1 where
  | done {α : Type} (value : α) : Script α
  | fail {α : Type} (error : SyntaxError) : Script α
  | andThen {α β : Type} (first : Script α) (next : α → Script β) : Script β
  | peek {α : Type} (give : Option Token → α) : Script α
  | take {α : Type} (give : Option Token → α) : Script α
  | location {α : Type} (give : Location → α) : Script α
  | depth {α : Type} (give : Nat → α) : Script α
  | deeper {α : Type} (inside : Script α) : Script α
  | loop {α σ : Type} (name : Loop) (round : σ → Script (σ ⊕ α)) (state : σ) : Script α
  | call {α : Type} (routine : Routine) (body : Script α) : Script α
  | statement {α : Type} (give : Option Statement → α) : Script α

namespace Script

/-- Scripts are put one behind the other, and returning a value is done at once. -/
instance : Monad Script where
  pure := done
  bind := andThen

/-- Consumes the next token if it is a comment, and goes on then. -/
def skipComment : Script (Unit ⊕ Unit) := do
  if (← peek id).any Token.isComment then
    let _ ← take id
    return .inl ()
  else return .inr ()

/-- Consumes all comments in front of the next other token. -/
def skipComments : Script Unit := loop .comments (fun _ => skipComment) ()

/-- Whether no token is left. -/
def atEnd : Script Bool := do
  skipComments
  return (← peek id).isNone

/-- Whether the next token is accepted. -/
def nextIs (accept : Token → Bool) : Script Bool := do
  skipComments
  return (← peek id).any accept

/-- Consumes the next token. -/
def advance : Script Token := do
  match ← take id with
  | some token => return token
  | none => fail (.unexpectedEnd .anyToken (← location id))

/-- Fails because the next token, or the end of input, is not what was expected. -/
def unexpected {α : Type} (expected : Expectation) : Script α := do
  match ← peek id with
  | some token => fail (.unexpectedToken expected token)
  | none => fail (.unexpectedEnd expected (← location id))

/-- Consumes the next token if it is accepted. -/
def expect (accept : Token → Bool) (expected : Expectation) : Script Token := do
  if ← nextIs accept then advance else unexpected expected

/-- Unless `stop` holds, finds one more item and goes on; `found` was found before, latest first. -/
def collectNext {α : Type} (stop : Script Bool) (item : Script (Option α)) (found : List α) :
    Script (List α ⊕ List α) := do
  if ← stop then return .inr found.reverse else return .inl ((← item).toList ++ found)

/-- Collects items, again and again until `stop` holds. -/
def collect {α : Type} (name : Loop) (stop : Script Bool) (item : Script (Option α)) :
    Script (List α) :=
  loop name (collectNext stop item) []

/-! ### Productions -/

/-- Reads an identifier. -/
def identifier (expected : Expectation) : Script Identifier := do
  return ⟨← expect Token.isIdentifier expected⟩

/-- Reads the name of a type. -/
def typeName (expected : Expectation) : Script TypeName := do
  return ⟨← expect Token.isIdentifier expected⟩

/-- Reads an expression. -/
def expression : Script Expression := do
  return .ofOperand (← expect Expression.isOperand .operand)

/-- Reads the argument of a function. -/
def argument : Script Argument := do
  let identifier ← identifier .argumentName
  let typeName ← typeName .argumentType
  return { identifier, typeName }

/-- Reads the declaration of a variable. -/
def declaration : Script Declaration := do
  let _ ← expect (Token.isKeyword .letWord) .declarationKeyword
  let identifier ← identifier .variableName
  let typeName ← typeName .variableType
  if ← nextIs (Token.isSymbol .equal) then
    let _ ← advance
    let value ← expression
    return { identifier, typeName, value := some value }
  else
    return { identifier, typeName, value := none }

/-- Whether a block has no further statement. -/
def blockEnds : Script Bool := do
  if ← atEnd then return true else nextIs (Token.isSymbol .braceClose)

/-- Reads a block of statements. -/
def block (role : BlockRole) : Script (List Statement) := do
  let _ ← expect (Token.isSymbol .braceOpen) (.blockOpen role)
  let statements ← collect .block blockEnds (statement id)
  let _ ← expect (Token.isSymbol .braceClose) (.blockClose role)
  return statements

/-- Reads the condition and the branches of a conditional. -/
def branches : Script Statement := do
  let condition ← expression
  let whenTrue ← block .whenTrue
  if ← nextIs (Token.isKeyword .elseWord) then
    let _ ← advance
    let whenFalse ← block .whenFalse
    return .conditional condition whenTrue whenFalse
  else
    return .conditional condition whenTrue []

/-- Reads a conditional, unless as many are open as may be nested. -/
def conditional : Script Statement := do
  let token ← expect (Token.isKeyword .ifWord) .conditionalKeyword
  let depth ← depth id
  if Limits.nestingDepth ≤ depth then fail (.nestingTooDeep (depth + 1) token.span.start)
  else deeper branches

/-- Reads an expression as a statement. -/
def expressionStatement : Script Statement := do
  let expression ← expression
  let _ ← expect (Token.isSymbol .semicolon) .statementEnd
  return .expression expression

/-- Reads a statement, of which nothing remains if it is empty. -/
def statementBody : Script (Option Statement) := do
  if ← nextIs (Token.isKeyword .letWord) then
    return some (.declaration (← declaration))
  else if ← nextIs (Token.isKeyword .ifWord) then
    return some (← call .conditional conditional)
  else if ← nextIs (Token.isSymbol .semicolon) then
    let _ ← advance
    return none
  else
    return some (← expressionStatement)

/-- Goes on behind a comma if the arguments found, latest first, are not too many. -/
def moreArguments (function : Identifier) (found : List Argument) :
    Script (List Argument ⊕ List Argument) := do
  if Limits.argumentCount < found.length then
    fail (.tooManyArguments function.name found.length Limits.argumentCount function.span.start)
  else if ← nextIs (Token.isSymbol .comma) then
    let _ ← advance
    return .inl found
  else
    return .inr found.reverse

/-- Reads one more argument of a function; `found` came before, latest first. -/
def nextArgument (function : Identifier) (found : List Argument) :
    Script (List Argument ⊕ List Argument) := do
  moreArguments function ((← call .argument argument) :: found)

/-- Reads the arguments of a function, of which there may be none. -/
def arguments (function : Identifier) : Script (List Argument) := do
  if ← nextIs (Token.isSymbol .parenClose) then return []
  else loop .arguments (nextArgument function) []

/-- Reads the type that a function returns, unless its body follows. -/
def returnType : Script (Option TypeName) := do
  if ← nextIs (Token.isSymbol .braceOpen) then return none
  else return some (← typeName .returnType)

/-- Reads the definition of a function. -/
def function : Script Function := do
  let _ ← expect (Token.isKeyword .defWord) .functionKeyword
  let identifier ← identifier .functionName
  let _ ← expect (Token.isSymbol .parenOpen) .argumentsOpen
  let arguments ← arguments identifier
  let _ ← expect (Token.isSymbol .parenClose) .argumentsClose
  let returnType ← returnType
  let body ← block (.functionBody identifier.name)
  return { identifier, arguments, returnType, body }

/-- Reads a function or a statement, of which nothing remains if it is empty. -/
def topLevel : Script (Option TopLevel) := do
  if ← nextIs (Token.isKeyword .defWord) then
    return some (.function (← call .function function))
  else
    return (← statement id).map .statement

/-- Reads a program. -/
def program : Script (List TopLevel) := collect .program atEnd topLevel

end Script

/-! ## Runs -/

/-- What a script runs on: a lookahead, and the number of open conditionals. -/
structure Reader where
  tokens : Lookahead
  depth : Nat

namespace Reader

/-- What a run ends in: a value or an error, and the reader behind it. -/
abbrev Result (α : Type) := EStateM.Result SyntaxError Reader α

/-- Inspects the next token. -/
def peek (reader : Reader) : Result (Option Token) :=
  match reader.tokens.peek with
  | .ok next => .ok next reader
  | .error error => .error (.lexical error) reader

/-- Takes the next token. -/
def take (reader : Reader) : Result (Option Token) :=
  let reading := reader.tokens.read
  match reading.result with
  | .ok next => .ok next { reader with tokens := reading.lookahead }
  | .error error => .error (.lexical error) { reader with tokens := reading.lookahead }

/-- The mark of the token that is taken, if there is one. -/
def taken (reader : Reader) : List Mark :=
  match reader.tokens.read.result with
  | .ok (some token) => [.took token]
  | _ => []

namespace Result

variable {α β : Type}

/-- The reader behind a result. -/
def reader : Result α → Reader
  | .ok _ reader | .error _ reader => reader

/-- The value or the error. -/
def answer : Result α → Except SyntaxError α
  | .ok value _ => .ok value
  | .error error _ => .error error

/-- The result with what is made of its value. -/
def map (give : α → β) : Result α → Result β
  | .ok value reader => .ok (give value) reader
  | .error error reader => .error error reader

/-- The result with one conditional closed, whether it is a value or an error. -/
def closed : Result α → Result α
  | .ok value reader => .ok value { reader with depth := reader.depth - 1 }
  | .error error reader => .error error { reader with depth := reader.depth - 1 }

/-- The mark that the result of a call leaves if it is a value. -/
def ending (routine : Routine) (taken : Nat) : Result α → List Mark
  | .ok _ _ => [.returned routine taken]
  | .error _ _ => []

/-- Changing what was read leaves the reader as it is. -/
@[simp] theorem reader_map (give : α → β) (result : Result α) :
    (result.map give).reader = result.reader := by
  cases result <;> rfl

/-- Changing nothing of what was read changes nothing. -/
@[simp] theorem map_id (result : Result α) : result.map id = result := by
  cases result <;> rfl

/-- Closing a conditional takes no tokens. -/
@[simp] theorem tokens_reader_closed (result : Result α) :
    result.closed.reader.tokens = result.reader.tokens := by
  cases result <;> rfl

/-- The marks at the end of a routine count no tokens. -/
@[simp] theorem tokens_ending (routine : Routine) (taken : Nat) (result : Result α) :
    Mark.tokens (result.ending routine taken) = [] := by
  cases result <;> rfl

end Result

/-- Taking reads the token that is marked, or none. -/
theorem take_takes (reader : Reader) :
    reader.tokens.Takes (Mark.tokens reader.taken) reader.take.reader.tokens := by
  cases hpending : reader.tokens.pending with
  | none =>
    simp only [take, taken, Lookahead.read, hpending]
    exact .refl _
  | some item =>
    cases item with
    | error error =>
      simp only [take, taken, Lookahead.read, hpending]
      exact .refl _
    | ok token =>
      have hread : reader.tokens.read.result = .ok (some token) := by
        simp only [Lookahead.read, hpending]
      simp only [take, taken, hread]
      exact .cons hpending (.refl _)

end Reader

namespace Script

/-- `Runs script frames reader marks result`: run on `reader`, inside of as many conditionals as
`frames`, a script ends in `result` and leaves `marks`. -/
inductive Runs : {α : Type} → Script α → Nat → Reader → List Mark → Reader.Result α → Prop where
  | done {α : Type} {frames : Nat} {reader : Reader} {value : α} :
      Runs (done value) frames reader [] (.ok value reader)
  | fail {α : Type} {frames : Nat} {reader : Reader} {error : SyntaxError} :
      Runs (fail error : Script α) frames reader [] (.error error reader)
  | andThen {α β : Type} {frames : Nat} {reader middle : Reader} {front back : List Mark}
      {first : Script α} {next : α → Script β} {value : α} {result : Reader.Result β}
      (hfirst : Runs first frames reader front (.ok value middle))
      (hnext : Runs (next value) frames middle back result) :
      Runs (andThen first next) frames reader (front ++ back) result
  | andThen_error {α β : Type} {frames : Nat} {reader stuck : Reader} {marks : List Mark}
      {first : Script α} {next : α → Script β} {error : SyntaxError}
      (hfirst : Runs first frames reader marks (.error error stuck)) :
      Runs (andThen first next) frames reader marks (.error error stuck)
  | peek {α : Type} {frames : Nat} {reader : Reader} {give : Option Token → α} :
      Runs (peek give) frames reader [] (reader.peek.map give)
  | take {α : Type} {frames : Nat} {reader : Reader} {give : Option Token → α} :
      Runs (take give) frames reader reader.taken (reader.take.map give)
  | location {α : Type} {frames : Nat} {reader : Reader} {give : Location → α} :
      Runs (location give) frames reader [] (.ok (give reader.tokens.location) reader)
  | depth {α : Type} {frames : Nat} {reader : Reader} {give : Nat → α} :
      Runs (depth give) frames reader [] (.ok (give reader.depth) reader)
  | deeper {α : Type} {frames : Nat} {reader : Reader} {marks : List Mark} {inside : Script α}
      {result : Reader.Result α}
      (hinside : Runs inside frames { reader with depth := reader.depth + 1 } marks result) :
      Runs (deeper inside) frames reader marks result.closed
  | loop_again {α σ : Type} {frames : Nat} {reader middle : Reader} {front back : List Mark}
      {name : Loop} {round : σ → Script (σ ⊕ α)} {state next : σ} {result : Reader.Result α}
      (hround : Runs (round state) frames reader front (.ok (.inl next) middle))
      (hagain : Runs (loop name round next) frames middle back result) :
      Runs (loop name round state) frames reader
        (front ++ .repeated name (Mark.tokens front).length :: back) result
  | loop_end {α σ : Type} {frames : Nat} {reader last : Reader} {marks : List Mark}
      {name : Loop} {round : σ → Script (σ ⊕ α)} {state : σ} {value : α}
      (hround : Runs (round state) frames reader marks (.ok (.inr value) last)) :
      Runs (loop name round state) frames reader
        (marks ++ Mark.lastRound name (Mark.tokens marks).length) (.ok value last)
  | loop_error {α σ : Type} {frames : Nat} {reader stuck : Reader} {marks : List Mark}
      {name : Loop} {round : σ → Script (σ ⊕ α)} {state : σ} {error : SyntaxError}
      (hround : Runs (round state) frames reader marks (.error error stuck)) :
      Runs (loop name round state) frames reader marks (.error error stuck)
  | call {α : Type} {frames : Nat} {reader : Reader} {marks : List Mark} {routine : Routine}
      {body : Script α} {result : Reader.Result α}
      (hbody : Runs body (frames + routine.frames) reader marks result) :
      Runs (call routine body) frames reader
        (.called routine (frames + routine.frames) ::
          (marks ++ result.ending routine (Mark.tokens marks).length)) result
  | statement {α : Type} {frames : Nat} {reader : Reader} {marks : List Mark}
      {give : Option Statement → α} {result : Reader.Result (Option Statement)}
      (hcall : Runs (call .statement statementBody) frames reader marks result) :
      Runs (statement give) frames reader marks (result.map give)

namespace Runs

variable {α : Type} {script : Script α} {frames : Nat} {reader : Reader} {marks : List Mark}
  {result : Reader.Result α}

/-- The tokens that a run marks as taken are read on the way, one behind the other. -/
theorem takes (h : Runs script frames reader marks result) :
    reader.tokens.Takes (Mark.tokens marks) result.reader.tokens := by
  induction h with
  | done | fail | location | depth => exact .refl _
  | peek =>
    rw [Reader.Result.reader_map]
    unfold Reader.peek
    split <;> exact .refl _
  | @take _ _ reader =>
    rw [Reader.Result.reader_map]
    exact reader.take_takes
  | andThen _ _ ihfirst ihnext =>
    rw [Mark.tokens_append]
    exact ihfirst.append ihnext
  | andThen_error _ ih | loop_error _ ih => exact ih
  | deeper _ ih =>
    rw [Reader.Result.tokens_reader_closed]
    exact ih
  | loop_again _ _ ihround ihagain =>
    rw [Mark.tokens_append, Mark.tokens_repeated]
    exact ihround.append ihagain
  | loop_end _ ih =>
    rw [Mark.tokens_append, Mark.tokens_lastRound, List.append_nil]
    exact ih
  | call _ ih =>
    rw [Mark.tokens_called, Mark.tokens_append, Reader.Result.tokens_ending, List.append_nil]
    exact ih
  | statement _ ih =>
    rw [Reader.Result.reader_map]
    exact ih

/-- A script has one run at most. -/
theorem unique (h : Runs script frames reader marks result) {marks' : List Mark}
    {result' : Reader.Result α} (h' : Runs script frames reader marks' result') :
    marks' = marks ∧ result' = result := by
  induction h generalizing marks' with
  | done | fail | peek | take | location | depth =>
    cases h'
    exact ⟨rfl, rfl⟩
  | andThen _ _ ihfirst ihnext =>
    cases h' with
    | andThen hfirst hnext =>
      obtain ⟨rfl, hmiddle⟩ := ihfirst hfirst
      cases hmiddle
      obtain ⟨rfl, rfl⟩ := ihnext hnext
      exact ⟨rfl, rfl⟩
    | andThen_error hfirst => cases (ihfirst hfirst).2
  | andThen_error _ ih =>
    cases h' with
    | andThen hfirst _ => cases (ih hfirst).2
    | andThen_error hfirst =>
      obtain ⟨rfl, hstuck⟩ := ih hfirst
      cases hstuck
      exact ⟨rfl, rfl⟩
  | deeper _ ih =>
    cases h' with
    | deeper hinside =>
      obtain ⟨rfl, rfl⟩ := ih hinside
      exact ⟨rfl, rfl⟩
  | loop_again _ _ ihround ihagain =>
    cases h' with
    | loop_again hround hagain =>
      obtain ⟨rfl, hmiddle⟩ := ihround hround
      cases hmiddle
      obtain ⟨rfl, rfl⟩ := ihagain hagain
      exact ⟨rfl, rfl⟩
    | loop_end hround => cases (ihround hround).2
    | loop_error hround => cases (ihround hround).2
  | loop_end _ ih =>
    cases h' with
    | loop_again hround _ => cases (ih hround).2
    | loop_end hround =>
      obtain ⟨rfl, hlast⟩ := ih hround
      cases hlast
      exact ⟨rfl, rfl⟩
    | loop_error hround => cases (ih hround).2
  | loop_error _ ih =>
    cases h' with
    | loop_again hround _ => cases (ih hround).2
    | loop_end hround => cases (ih hround).2
    | loop_error hround =>
      obtain ⟨rfl, hstuck⟩ := ih hround
      cases hstuck
      exact ⟨rfl, rfl⟩
  | call _ ih =>
    cases h' with
    | call hbody =>
      obtain ⟨rfl, rfl⟩ := ih hbody
      exact ⟨rfl, rfl⟩
  | statement _ ih =>
    cases h' with
    | statement hcall =>
      obtain ⟨rfl, rfl⟩ := ih hcall
      exact ⟨rfl, rfl⟩

end Runs

end Script

end VinylSyntax
