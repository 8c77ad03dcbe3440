import VinylSyntax.Proofs.Checked.Parsing
import VinylSyntax.Proofs.Definitions
import VinylSyntax.Proofs.Derived

/-!
# Branches that are never taken

Some branches of the parser guard against what a test in front of them has ruled out: that the input
has ended where a token is taken, that the lexer has failed where a token is refused, that a
production does not begin with the keyword that it was chosen by, and that an operand is neither a
name nor a number. `Fallbacks` stand for anything that may be done in these branches, and the
productions are read once more with them. They make no difference, whatever they are: see
`fallbacks_unused`.
-/

namespace VinylSyntax

/-- What is done in the branches that are guarded. -/
structure Fallbacks where
  /-- The input has ended where a token is taken. -/
  ended : Parse Token
  /-- The lexer has failed where a token is refused. -/
  failed : LexicalError → Parse Token
  /-- A production does not begin with its keyword, for some reason. -/
  headless : SyntaxError → Parse Token
  /-- An operand is neither a name nor a number. -/
  strange : Token → Expression

namespace Fallbacks

variable (fallbacks : Fallbacks)

/-! ## Reading with fallbacks -/

/-- Consumes the next token. -/
def advance : Parse Token := fun parser =>
  match parser.tokens.read.result with
  | .ok (some token) =>
    let behind := parser.behindToken
    .ok token (behind.trace (behind.consumptionEvent token))
  | .ok none => fallbacks.ended parser
  | .error error => .error (.lexical error) parser

/-- Fails because the next token, or the end of input, is not what was expected. -/
def unexpected (expected : Expectation) : Parse Token := fun parser =>
  match parser.tokens.peek with
  | .ok (some token) => .error (.unexpectedToken expected token) parser
  | .ok none => .error (.unexpectedEnd expected parser.tokens.location) parser
  | .error error => fallbacks.failed error parser

/-- Consumes the next token if it is accepted. -/
def expect (accept : Token → Bool) (expected : Expectation) : Parse Token := do
  if ← Parse.nextIs accept then fallbacks.advance else fallbacks.unexpected expected

/-- Consumes the keyword that a production begins with. -/
def keyword (accept : Token → Bool) (expected : Expectation) : Parse Token := fun parser =>
  match fallbacks.expect accept expected parser with
  | .ok token behind => .ok token behind
  | .error error stuck => fallbacks.headless error stuck

/-- The expression that an operand is. -/
def ofOperand (token : Token) : Expression :=
  match token.kind with
  | .integer _ => .integer token
  | .float _ => .float token
  | .identifier => .identifier ⟨token⟩
  | _ => fallbacks.strange token

/-! ### Productions -/

/-- Reads an identifier. -/
def identifier (expected : Expectation) : Parse Identifier := do
  return ⟨← fallbacks.expect Token.isIdentifier expected⟩

/-- Reads the name of a type. -/
def typeName (expected : Expectation) : Parse TypeName := do
  return ⟨← fallbacks.expect Token.isIdentifier expected⟩

/-- Reads an expression. -/
def expression : Parse Expression := do
  return fallbacks.ofOperand (← fallbacks.expect Expression.isOperand .operand)

/-- Reads the argument of a function. -/
def argument : Parse Argument := do
  Parse.enter .argument
  let identifier ← fallbacks.identifier .argumentName
  let typeName ← fallbacks.typeName .argumentType
  Parse.leave
  return { identifier, typeName }

/-- Reads the declaration of a variable. -/
def declaration : Parse Declaration := do
  Parse.enter .variableDeclaration
  let _ ← fallbacks.keyword (Token.isKeyword .letWord) .declarationKeyword
  let identifier ← fallbacks.identifier .variableName
  let typeName ← fallbacks.typeName .variableType
  if ← Parse.nextIs (Token.isSymbol .equal) then
    let _ ← fallbacks.advance
    let value ← fallbacks.expression
    Parse.leave
    return { identifier, typeName, value := some value }
  else
    Parse.leave
    return { identifier, typeName, value := none }

/-- Reads a block of statements, each of which is read by `statement`. -/
def block (statement : Parse (Option Statement)) (role : BlockRole) : Parse (List Statement) := do
  Parse.enter .block
  let _ ← fallbacks.expect (Token.isSymbol .braceOpen) (.blockOpen role)
  let statements ← Parse.collect Parse.blockEnds statement
  let _ ← fallbacks.expect (Token.isSymbol .braceClose) (.blockClose role)
  Parse.leave
  return statements

/-- Reads the condition and the branches of a conditional. -/
def branches (statement : Parse (Option Statement)) : Parse Statement := do
  let condition ← fallbacks.expression
  let whenTrue ← fallbacks.block statement .whenTrue
  if ← Parse.nextIs (Token.isKeyword .elseWord) then
    let _ ← fallbacks.advance
    let whenFalse ← fallbacks.block statement .whenFalse
    return .conditional condition whenTrue whenFalse
  else
    return .conditional condition whenTrue []

/-- Reads a conditional whose branches are made of what `nested` reads; without it, the conditional
is nested too deep. -/
def conditional (nested : Option (Parse (Option Statement))) : Parse Statement := do
  Parse.enter .conditional
  let token ← fallbacks.keyword (Token.isKeyword .ifWord) .conditionalKeyword
  match nested with
  | none => throw (.nestingTooDeep (Limits.nestingDepth + 1) token.span.start)
  | some statement => Parse.leaving (fallbacks.branches statement)

/-- Reads an expression as a statement. -/
def expressionStatement : Parse Statement := do
  Parse.enter .expressionStatement
  let expression ← fallbacks.expression
  let _ ← fallbacks.expect (Token.isSymbol .semicolon) .statementEnd
  Parse.leave
  return .expression expression

/-- Reads a statement, of which nothing remains if it is empty. -/
def statementWith (nested : Option (Parse (Option Statement))) : Parse (Option Statement) := do
  if ← Parse.nextIs (Token.isKeyword .letWord) then
    return some (.declaration (← fallbacks.declaration))
  else if ← Parse.nextIs (Token.isKeyword .ifWord) then
    return some (← fallbacks.conditional nested)
  else if ← Parse.nextIs (Token.isSymbol .semicolon) then
    let _ ← fallbacks.advance
    return none
  else
    return some (← fallbacks.expressionStatement)

/-- Reads a statement in which conditionals may be nested a number of levels deep. -/
def statement : Nat → Parse (Option Statement)
  | 0 => fallbacks.statementWith none
  | levels + 1 => fallbacks.statementWith (some (statement levels))

/-- Reads the arguments of a function up to the closing parenthesis, `allowed` more than one;
`found` came before, latest first. -/
def argumentsFrom (function : Identifier) (found : List Argument) : Nat → Parse (List Argument)
  | 0 => do
    let _ ← fallbacks.argument
    throw (.tooManyArguments function.name (Limits.argumentCount + 1) Limits.argumentCount
      function.span.start)
  | allowed + 1 => do
    let argument ← fallbacks.argument
    if ← Parse.nextIs (Token.isSymbol .comma) then
      let _ ← fallbacks.advance
      argumentsFrom function (argument :: found) allowed
    else
      return (argument :: found).reverse

/-- Reads the arguments of a function, of which there may be none. -/
def arguments (function : Identifier) : Parse (List Argument) := do
  if ← Parse.nextIs (Token.isSymbol .parenClose) then return []
  else fallbacks.argumentsFrom function [] Limits.argumentCount

/-- Reads the type that a function returns, unless its body follows. -/
def returnType : Parse (Option TypeName) := do
  if ← Parse.nextIs (Token.isSymbol .braceOpen) then return none
  else return some (← fallbacks.typeName .returnType)

/-- Reads the definition of a function. -/
def function : Parse Function := do
  Parse.enter .functionDefinition
  let _ ← fallbacks.keyword (Token.isKeyword .defWord) .functionKeyword
  let identifier ← fallbacks.identifier .functionName
  let _ ← fallbacks.expect (Token.isSymbol .parenOpen) .argumentsOpen
  let arguments ← fallbacks.arguments identifier
  let _ ← fallbacks.expect (Token.isSymbol .parenClose) .argumentsClose
  let returnType ← fallbacks.returnType
  let body ←
    fallbacks.block (fallbacks.statement Limits.nestingDepth) (.functionBody identifier.name)
  Parse.leave
  return { identifier, arguments, returnType, body }

/-- Reads a function or a statement, of which nothing remains if it is empty. -/
def topLevel : Parse (Option TopLevel) := do
  if ← Parse.nextIs (Token.isKeyword .defWord) then
    return some (.function (← fallbacks.function))
  else
    return (← fallbacks.statement Limits.nestingDepth).map .statement

/-- Reads a program. -/
def program : Parse (List TopLevel) := do
  Parse.enter .program
  let parts ← Parse.collect Parse.atEnd fallbacks.topLevel
  Parse.leave
  return parts

/-- Reads a program to the end of input, or up to the first error. -/
def parse (parser : Parser) : Except SyntaxError (List TopLevel) × Parser :=
  match fallbacks.program parser with
  | .ok program parser => (.ok program, parser.log (parser.completionEvent program))
  | .error error parser => (.error error, parser.log (parser.errorEvent error))

/-- Parses a number of times, one behind the other. -/
def parseTimes (parser : Parser) : Nat → List (Except SyntaxError (List TopLevel)) × Parser
  | 0 => ([], parser)
  | times + 1 =>
    let (result, parser) := fallbacks.parse parser
    let (results, parser) := parseTimes parser times
    (result :: results, parser)

/-! ### The parser's own branches -/

/-- What the parser does in the branches that are guarded. -/
def own : Fallbacks where
  ended parser := .error (.unexpectedEnd .anyToken parser.tokens.location) parser
  failed error parser := .error (.lexical error) parser
  headless error parser := .error error parser
  strange token := .identifier ⟨token⟩

/-- With the parser's own branches, the actions that have them are those of the parser. -/
theorem own_eq : own.advance = Parse.advance ∧ own.unexpected = Parse.unexpected ∧
    own.keyword = Parse.expect ∧ own.ofOperand = Expression.ofOperand := by
  refine ⟨rfl, rfl, ?_, ?_⟩
  · funext accept expected parser
    show own.keyword accept expected parser = own.expect accept expected parser
    unfold keyword
    cases own.expect accept expected parser <;> rfl
  · funext token
    unfold ofOperand Expression.ofOperand
    cases token.kind <;> rfl

end Fallbacks

/-! ## Errors of guarded branches -/

/-- What an error says was expected, if it says so. -/
def SyntaxError.expected? : SyntaxError → Option Expectation
  | .unexpectedToken expected _ => some expected
  | .unexpectedEnd expected _ => some expected
  | _ => none

/-- Whether only a guarded branch fails to meet an expectation: that there is any token, and that a
production begins with its keyword. -/
def Expectation.isGuarded : Expectation → Bool
  | .anyToken | .functionKeyword | .conditionalKeyword | .declarationKeyword => true
  | _ => false

/-- An error does not come from a guarded branch, as far as it says what was expected. -/
def SyntaxError.Unguarded (error : SyntaxError) : Prop :=
  ∀ expected ∈ error.expected?, expected.isGuarded = false

/-- An error that does not say what was expected comes from no guarded branch. -/
theorem SyntaxError.unguarded_of_none {error : SyntaxError} (h : error.expected? = none) :
    error.Unguarded := by
  intro expected hexpected
  rw [h] at hexpected
  cases hexpected

/-- The next token of a parser is no comment, and it is accepted. -/
structure Parser.Faces (accept : Token → Bool) (parser : Parser) : Prop where
  ready : parser.Ready
  accepted : parser.ahead.tokens.head?.any accept = true

namespace Parse

variable {α β : Type} {fallbacks : Fallbacks}

/-! ## Agreement -/

/-- At a place, an action does what the parser's own one does, which fails with no error of a
guarded branch. -/
structure AgreesAt (action own : Parse α) (parser : Parser) : Prop where
  same : action parser = own parser
  unguarded : ∀ error stuck, own parser = .error error stuck → error.Unguarded

/-- An action agrees with the parser's own one at every place. -/
def Agrees (action own : Parse α) : Prop := ∀ parser, AgreesAt action own parser

/-- Returning a value agrees with itself. -/
theorem Agrees.pure (value : α) : Agrees (pure value) (pure value) := fun _ =>
  ⟨rfl, fun _ _ h => nomatch h⟩

/-- Failing with an error that comes from no guarded branch agrees with itself. -/
theorem Agrees.throw {error : SyntaxError} (h : error.Unguarded) :
    Agrees (throw error : Parse α) (throw error) := fun _ =>
  ⟨rfl, fun _ _ hthrow => (EStateM.Result.error.inj hthrow).1 ▸ h⟩

/-- Actions agree behind one another if the first ones agree, and the others do behind their
values. -/
theorem AgreesAt.bind {action own : Parse α} {next ownNext : α → Parse β} {parser : Parser}
    (h : AgreesAt action own parser)
    (hnext : ∀ value behind, own parser = .ok value behind →
      AgreesAt (next value) (ownNext value) behind) :
    AgreesAt (action >>= next) (own >>= ownNext) parser := by
  obtain ⟨hsame, hunguarded⟩ := h
  cases hresult : own parser with
  | ok value behind =>
    obtain ⟨hsame', hunguarded'⟩ := hnext value behind hresult
    refine ⟨?_, ?_⟩
    · rw [bind_ok (hsame.trans hresult), bind_ok hresult, hsame']
    · rw [bind_ok hresult]
      exact hunguarded'
  | error error stuck =>
    refine ⟨?_, ?_⟩
    · rw [bind_error (hsame.trans hresult), bind_error hresult]
    · rw [bind_error hresult]
      rintro _ _ ⟨⟩
      exact hunguarded error stuck hresult

/-- Actions that agree at every place agree behind one another. -/
theorem Agrees.bind {action own : Parse α} {next ownNext : α → Parse β} (h : Agrees action own)
    (hnext : ∀ value, Agrees (next value) (ownNext value)) :
    Agrees (action >>= next) (own >>= ownNext) := fun parser =>
  (h parser).bind fun value behind _ => hnext value behind

/-- Leaving a production behind actions that agree keeps them in agreement. -/
theorem AgreesAt.leaving {action own : Parse α} {parser : Parser} (h : AgreesAt action own parser) :
    AgreesAt (leaving action) (leaving own) parser := by
  obtain ⟨hsame, hunguarded⟩ := h
  refine ⟨by simp only [Parse.leaving, hsame], fun error stuck herror => ?_⟩
  cases hresult : own parser with
  | ok value behind => simp [Parse.leaving, hresult] at herror
  | error error' stuck' =>
    simp only [Parse.leaving, hresult, EStateM.Result.error.injEq] at herror
    exact herror.1 ▸ hunguarded error' stuck' hresult

/-- What only looks at tokens fails with the error of the lexer. -/
theorem Decides.agrees {action : Parse Bool} {test : Option Token → Bool}
    (h : Decides action test) : Agrees action action := by
  intro parser
  refine ⟨rfl, fun error stuck herror => ?_⟩
  rcases h parser with ⟨ready, hready, -⟩ | ⟨failure, _, hfailed, -⟩
  · rw [hready] at herror
    cases herror
  · rw [hfailed] at herror
    cases herror
    exact SyntaxError.unguarded_of_none rfl

/-- A quiet action cannot fail, and so agrees with itself. -/
theorem Quiet.agrees {action : Parse Unit} (h : Quiet action) : Agrees action action := by
  intro parser
  refine ⟨rfl, fun error stuck herror => ?_⟩
  obtain ⟨ready, hready, -⟩ := h parser
  rw [hready] at herror
  cases herror

/-- Collecting what actions read agrees if the actions do, and the test for the end does with
itself. -/
theorem Agrees.collect {stop : Parse Bool} {action own : Parse (Option α)}
    (hstop : Agrees stop stop) (h : Agrees action own) :
    Agrees (collect stop action) (collect stop own) := by
  -- Actions that agree are the same, so only the errors are left to look at.
  obtain rfl : action = own := funext fun parser => (h parser).same
  unfold Parse.collect
  generalize ([] : List α) = found
  intro parser
  refine ⟨rfl, fun error stuck herror => ?_⟩
  fun_induction collectFrom stop action found parser with
  | case1 found parser failure last hended =>
    cases herror
    exact (hstop parser).unguarded _ _ hended
  | case2 => cases herror
  | case3 found parser ready hended failure last hvalue =>
    cases herror
    exact (h ready).unguarded _ _ hvalue
  | case4 _ _ _ _ _ _ _ _ _ ih => exact ih herror
  | case5 => cases herror

/-! ## What a test has ruled out -/

/-- Where a token is accepted, there is one to take. -/
theorem advance_of_faces (fallbacks : Fallbacks) {accept : Token → Bool} {parser : Parser}
    (h : parser.Faces accept) :
    ∃ token behind, advance parser = .ok token behind ∧
      fallbacks.advance parser = .ok token behind := by
  obtain ⟨hready, haccepted⟩ := h
  rcases hready.pending_eq with ⟨token, hpending, -⟩ | ⟨-, hahead⟩
  · exact ⟨token, _, by simp [advance, Lookahead.read, hpending]; rfl,
      by simp [Fallbacks.advance, Lookahead.read, hpending]⟩
  · rw [hahead] at haccepted
    cases haccepted

/-- Taking a token that was tested agrees, since there is one. -/
theorem agreesAt_advance {accept : Token → Bool} {parser : Parser} (h : parser.Faces accept) :
    AgreesAt fallbacks.advance advance parser := by
  obtain ⟨token, behind, hown, hadvance⟩ := advance_of_faces fallbacks h
  exact ⟨hadvance.trans hown.symm, fun error stuck herror => by rw [hown] at herror; cases herror⟩

/-- Behind a choice by the next token, that token is faced on the one side. -/
theorem agrees_choice {accept : Token → Bool} {left ownLeft right ownRight : Parse α}
    (hleft : ∀ ready : Parser, ready.Faces accept → AgreesAt left ownLeft ready)
    (hright : ∀ ready : Parser, ready.Ready → AgreesAt right ownRight ready) :
    Agrees (do if ← nextIs accept then left else right)
      (do if ← nextIs accept then ownLeft else ownRight) := by
  intro parser
  refine ((nextIs_decides accept).agrees parser).bind fun value ready hvalue => ?_
  rcases nextIs_decides accept parser with ⟨ready', htest, hready, hahead, -⟩ | ⟨_, _, hfailed, -⟩
  · obtain ⟨rfl, rfl⟩ := EStateM.Result.ok.inj (hvalue.symm.trans htest)
    cases htrue : parser.ahead.tokens.head?.any accept with
    | true =>
      simp only [htrue, if_true]
      exact hleft ready ⟨hready, hahead ▸ htrue⟩
    | false =>
      simp only [htrue, Bool.false_eq_true, if_false]
      exact hright ready hready
  · rw [hfailed] at hvalue
    cases hvalue

/-- Going on behind the next token if it is accepted. -/
theorem agrees_choice_advance {accept : Token → Bool} {next ownNext : Token → Parse α}
    {right ownRight : Parse α} (hnext : ∀ token, Agrees (next token) (ownNext token))
    (hright : Agrees right ownRight) :
    Agrees (do if ← nextIs accept then next (← fallbacks.advance) else right)
      (do if ← nextIs accept then ownNext (← advance) else ownRight) :=
  agrees_choice (fun _ hfaces => (agreesAt_advance hfaces).bind fun token behind _ =>
    hnext token behind) fun ready _ => hright ready

/-- Refusing the next token agrees where no error of the lexer is next. -/
theorem agreesAt_unexpected {expected : Expectation} (h : expected.isGuarded = false)
    {parser : Parser} (hready : parser.Ready) :
    AgreesAt (fallbacks.unexpected expected) (unexpected expected) parser := by
  have hexpected : ∀ other ∈ some expected, other.isGuarded = false := by
    rintro _ ⟨⟩
    exact h
  have hpeek := hready.peek_eq
  cases htoken : parser.ahead.tokens.head? with
  | none =>
    rw [htoken] at hpeek
    refine ⟨by simp only [Fallbacks.unexpected, unexpected, hpeek], fun error stuck herror => ?_⟩
    simp only [unexpected, hpeek] at herror
    cases herror
    exact hexpected
  | some token =>
    rw [htoken] at hpeek
    refine ⟨by simp only [Fallbacks.unexpected, unexpected, hpeek], fun error stuck herror => ?_⟩
    simp only [unexpected, hpeek] at herror
    cases herror
    exact hexpected

/-- Expecting a token where no branch is guarded agrees. -/
theorem agrees_expect (accept : Token → Bool) {expected : Expectation}
    (h : expected.isGuarded = false) :
    Agrees (fallbacks.expect accept expected) (expect accept expected) :=
  agrees_choice (fun _ hfaces => agreesAt_advance hfaces) fun _ hready =>
    agreesAt_unexpected h hready

/-- A token that is faced is the next one. -/
theorem nextIs_of_faces {accept : Token → Bool} {parser : Parser} (h : parser.Faces accept) :
    ∃ ready : Parser, nextIs accept parser = .ok true ready ∧ ready.Faces accept := by
  obtain ⟨hready, haccepted⟩ := h
  rcases nextIs_decides accept parser with ⟨ready, htest, hready', hahead, -⟩ | ⟨_, _, -, hahead⟩
  · exact ⟨ready, haccepted ▸ htest, hready', hahead ▸ haccepted⟩
  · rw [hahead] at haccepted
    cases haccepted

/-- The keyword that a production was chosen by is there. -/
theorem agreesAt_keyword {accept : Token → Bool} (expected : Expectation) {parser : Parser}
    (h : parser.Faces accept) :
    AgreesAt (fallbacks.keyword accept expected) (expect accept expected) parser := by
  obtain ⟨ready, hnext, hfaces⟩ := nextIs_of_faces h
  obtain ⟨token, behind, hown, hadvance⟩ := advance_of_faces fallbacks hfaces
  have hexpect : fallbacks.expect accept expected parser = .ok token behind :=
    (bind_ok hnext).trans hadvance
  have hownExpect : expect accept expected parser = .ok token behind := (bind_ok hnext).trans hown
  refine ⟨by simp only [Fallbacks.keyword, hexpect, hownExpect], fun error stuck herror => ?_⟩
  rw [hownExpect] at herror
  cases herror

/-- A production that begins with a keyword agrees where it was chosen by that. -/
theorem agreesAt_headed {accept : Token → Bool} (production : Production) (expected : Expectation)
    {next ownNext : Token → Parse α} (hnext : ∀ token, Agrees (next token) (ownNext token))
    {parser : Parser} (h : parser.Faces accept) :
    AgreesAt (do enter production; let token ← fallbacks.keyword accept expected; next token)
      (do enter production; let token ← expect accept expected; ownNext token) parser := by
  -- Entering the production leaves the token where it is.
  refine ((enter_quiet production).agrees parser).bind fun _ inside hinside => ?_
  have htokens : inside.tokens = parser.tokens := by
    cases hinside
    simp
  have hfaces : inside.Faces accept := by
    obtain ⟨hready, haccepted⟩ := h
    exact ⟨by rwa [Parser.Ready, htokens], by rwa [Parser.ahead, htokens]⟩
  exact (agreesAt_keyword expected hfaces).bind fun token behind _ => hnext token behind

/-! ## Productions -/

/-- Reading an identifier where no branch is guarded agrees. -/
theorem agrees_identifier {expected : Expectation} (h : expected.isGuarded = false) :
    Agrees (fallbacks.identifier expected) (identifier expected) :=
  (agrees_expect _ h).bind fun _ => .pure _

/-- Reading the name of a type where no branch is guarded agrees. -/
theorem agrees_typeName {expected : Expectation} (h : expected.isGuarded = false) :
    Agrees (fallbacks.typeName expected) (typeName expected) :=
  (agrees_expect _ h).bind fun _ => .pure _

/-- An operand is a name or a number. -/
theorem ofOperand_eq {token : Token} (h : Expression.isOperand token = true) :
    fallbacks.ofOperand token = .ofOperand token := by
  unfold Expression.isOperand at h
  unfold Fallbacks.ofOperand Expression.ofOperand
  split at h <;> simp_all

/-- Reading an expression agrees, since its token was tested to be an operand. -/
theorem agrees_expression : Agrees fallbacks.expression expression := by
  intro parser
  refine (agrees_expect _ rfl parser).bind fun token behind htoken => ?_
  have hfollows := expect_follows Expression.isOperand .operand ⟨.ofKind .identifier, rfl⟩ parser
  rw [FollowsAt, htoken] at hfollows
  obtain ⟨-, -, -, ⟨-, hoperand⟩, -⟩ := hfollows
  rw [ofOperand_eq hoperand]
  exact Agrees.pure _ behind

/-- Reading an argument agrees. -/
theorem agrees_argument : Agrees fallbacks.argument argument :=
  (enter_quiet _).agrees.bind fun _ => (agrees_identifier rfl).bind fun _ =>
    (agrees_typeName rfl).bind fun _ => leave_quiet.agrees.bind fun _ => .pure _

/-- Reading a declaration agrees in front of its keyword. -/
theorem agreesAt_declaration {parser : Parser}
    (h : parser.Faces (Token.isKeyword .letWord)) :
    AgreesAt fallbacks.declaration declaration parser :=
  agreesAt_headed _ _ (fun _ => (agrees_identifier rfl).bind fun _ =>
    (agrees_typeName rfl).bind fun _ => agrees_choice_advance
      (fun _ => agrees_expression.bind fun _ => leave_quiet.agrees.bind fun _ => .pure _)
      (leave_quiet.agrees.bind fun _ => .pure _)) h

section block

variable {statement own : Parse (Option Statement)} (hstatement : Agrees statement own)

include hstatement

/-- Reading a block agrees if reading its statements does. -/
theorem agrees_block (role : BlockRole) :
    Agrees (fallbacks.block statement role) (block own role) :=
  (enter_quiet _).agrees.bind fun _ => (agrees_expect _ rfl).bind fun _ =>
    (blockEnds_decides.agrees.collect hstatement).bind fun _ =>
    (agrees_expect _ rfl).bind fun _ => leave_quiet.agrees.bind fun _ => .pure _

/-- Reading the branches of a conditional agrees if reading their statements does. -/
theorem agrees_branches : Agrees (fallbacks.branches statement) (branches own) :=
  agrees_expression.bind fun _ => (agrees_block hstatement _).bind fun _ =>
    agrees_choice_advance (fun _ => (agrees_block hstatement _).bind fun _ => .pure _) (.pure _)

/-- Reading a conditional agrees in front of its keyword if reading its statements does. -/
theorem agreesAt_conditional {parser : Parser} (h : parser.Faces (Token.isKeyword .ifWord)) :
    AgreesAt (fallbacks.conditional (some statement)) (conditional (some own)) parser :=
  agreesAt_headed _ _ (fun _ parser => (agrees_branches hstatement parser).leaving) h

end block

/-- Refusing a conditional that lies too deep agrees in front of its keyword. -/
theorem agreesAt_conditional_none {parser : Parser}
    (h : parser.Faces (Token.isKeyword .ifWord)) :
    AgreesAt (fallbacks.conditional none) (conditional none) parser :=
  agreesAt_headed _ _ (fun _ => .throw (SyntaxError.unguarded_of_none rfl)) h

/-- Reading an expression with its semicolon agrees. -/
theorem agrees_expressionStatement :
    Agrees fallbacks.expressionStatement expressionStatement :=
  (enter_quiet _).agrees.bind fun _ => agrees_expression.bind fun _ =>
    (agrees_expect _ rfl).bind fun _ => leave_quiet.agrees.bind fun _ => .pure _

/-- Reading a statement agrees if reading a conditional does in front of its keyword. -/
theorem agrees_statementWith {nested own : Option (Parse (Option Statement))}
    (h : ∀ parser : Parser, parser.Faces (Token.isKeyword .ifWord) →
      AgreesAt (fallbacks.conditional nested) (conditional own) parser) :
    Agrees (fallbacks.statementWith nested) (statementWith own) :=
  agrees_choice (fun _ hfaces => (agreesAt_declaration hfaces).bind fun _ behind _ =>
    Agrees.pure _ behind) fun ready _ =>
  agrees_choice (fun _ hfaces => (h _ hfaces).bind fun _ behind _ => Agrees.pure _ behind)
    (fun ready _ => agrees_choice_advance (fun _ => .pure _)
      (agrees_expressionStatement.bind fun _ => .pure _) ready) ready

/-- Reading a statement agrees however many conditionals it may contain. -/
theorem agrees_statement (levels : Nat) :
    Agrees (fallbacks.statement levels) (statement levels) := by
  induction levels with
  | zero => exact agrees_statementWith fun _ => agreesAt_conditional_none
  | succ levels ih => exact agrees_statementWith fun _ => agreesAt_conditional ih

/-- Reading further arguments agrees. -/
theorem agrees_argumentsFrom (function : Identifier) (found : List Argument) (allowed : Nat) :
    Agrees (fallbacks.argumentsFrom function found allowed)
      (argumentsFrom function found allowed) := by
  induction allowed generalizing found with
  | zero => exact agrees_argument.bind fun _ => .throw (SyntaxError.unguarded_of_none rfl)
  | succ allowed ih =>
    exact agrees_argument.bind fun argument =>
      agrees_choice_advance (fun _ => ih (argument :: found)) (.pure _)

/-- Reading the arguments of a function agrees. -/
theorem agrees_arguments (function : Identifier) :
    Agrees (fallbacks.arguments function) (arguments function) :=
  agrees_choice (fun ready _ => Agrees.pure _ ready)
    fun ready _ => agrees_argumentsFrom function [] _ ready

/-- Reading the type that a function returns agrees. -/
theorem agrees_returnType : Agrees fallbacks.returnType returnType :=
  agrees_choice (fun ready _ => Agrees.pure _ ready)
    fun ready _ => (agrees_typeName rfl).bind (fun _ => .pure _) ready

/-- Reading a function agrees in front of its keyword. -/
theorem agreesAt_function {parser : Parser} (h : parser.Faces (Token.isKeyword .defWord)) :
    AgreesAt fallbacks.function function parser :=
  agreesAt_headed _ _ (fun _ => (agrees_identifier rfl).bind fun identifier =>
    (agrees_expect _ rfl).bind fun _ => (agrees_arguments identifier).bind fun _ =>
    (agrees_expect _ rfl).bind fun _ => agrees_returnType.bind fun _ =>
    (agrees_block (agrees_statement _) _).bind fun _ => leave_quiet.agrees.bind fun _ => .pure _) h

/-- Reading a part of a program agrees. -/
theorem agrees_topLevel : Agrees fallbacks.topLevel topLevel :=
  agrees_choice (fun _ hfaces => (agreesAt_function hfaces).bind fun _ behind _ =>
    Agrees.pure _ behind) fun ready _ => (agrees_statement _).bind (fun _ => .pure _) ready

/-- Reading a program agrees. -/
theorem agrees_program : Agrees fallbacks.program program :=
  (enter_quiet _).agrees.bind fun _ => (atEnd_decides.agrees.collect agrees_topLevel).bind fun _ =>
    leave_quiet.agrees.bind fun _ => .pure _

end Parse

/-! ## Whatever is done in guarded branches -/

namespace Fallbacks

variable (fallbacks : Fallbacks) (parser : Parser)

/-- Whatever is done in guarded branches, parsing gives the same and leaves the same parser. -/
theorem parse_eq : fallbacks.parse parser = parser.parse := by
  have hsame := (@Parse.agrees_program fallbacks parser).same
  cases hprogram : Parse.program parser with
  | ok parts behind => simp only [parse, Parser.parse, hsame.trans hprogram, hprogram]
  | error error stuck => simp only [parse, Parser.parse, hsame.trans hprogram, hprogram]

/-- Whatever is done in guarded branches, parsing any number of times gives the same. -/
theorem parseTimes_eq (times : Nat) :
    fallbacks.parseTimes parser times = parser.parseTimes times := by
  induction times generalizing parser with
  | zero => rfl
  | succ times ih => simp only [parseTimes, Parser.parseTimes, parse_eq, ih]

end Fallbacks

/-- The results of parsing a number of times are those of single calls. -/
theorem Parser.exists_parse_of_mem {parser : Parser} {times : Nat}
    {result : Except SyntaxError (List TopLevel)} (h : result ∈ (parser.parseTimes times).1) :
    ∃ ready : Parser, ready.parse.1 = result := by
  induction times generalizing parser with
  | zero => cases h
  | succ times ih =>
    rcases List.mem_cons.1 h with rfl | hlater
    · exact ⟨parser, rfl⟩
    · exact ih hlater

/-- No error that parsing ends in says that a guarded branch was taken. -/
theorem Parser.unguarded_of_parse {parser : Parser} {error : SyntaxError}
    (h : parser.parse.1 = .error error) : error.Unguarded := by
  rw [parse] at h
  split at h
  · cases h
  · next error' stuck hresult =>
    cases h
    exact (@Parse.agrees_program .own parser).unguarded _ _ hresult

/-- Every part of a program that is read is well-formed: an expression holds a token of its own
kind. -/
theorem Parser.wellFormed_of_parse {parser : Parser} {parts : List TopLevel}
    (h : parser.parse.1 = .ok parts) : ∀ part ∈ parts, part.WellFormed fun _ => True := by
  rw [parse] at h
  split at h
  · next parts' behind hresult =>
    cases h
    have hfollows := Parse.program_follows parser
    rw [Parse.FollowsAt, hresult] at hfollows
    obtain ⟨taken, -, -, hlimited, -⟩ := hfollows
    exact (Parse.programRule.phrase_of_limited hlimited).wellFormed fun _ _ => trivial
  · cases h

/-- Whatever is done in guarded branches, parsing a number of times gives the same results and
leaves the same parser, wherever it begins. No error says that a guarded branch was taken, and every
expression that is read holds a token of its own kind. -/
theorem fallbacks_unused (fallbacks : Fallbacks) (parser : Parser) (times : Nat) :
    fallbacks.parseTimes parser times = parser.parseTimes times ∧
      ∀ result ∈ (parser.parseTimes times).1,
        match result with
        | .ok parts => ∀ part ∈ parts, part.WellFormed fun _ => True
        | .error error => error.Unguarded := by
  refine ⟨fallbacks.parseTimes_eq parser times, fun result hresult => ?_⟩
  obtain ⟨ready, rfl⟩ := Parser.exists_parse_of_mem hresult
  cases hparse : ready.parse.1 with
  | ok parts => exact Parser.wellFormed_of_parse hparse
  | error error => exact Parser.unguarded_of_parse hparse

end VinylSyntax
