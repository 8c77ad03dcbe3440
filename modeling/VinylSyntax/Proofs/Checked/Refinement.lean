import VinylSyntax.Proofs.Checked.Parsing
import VinylSyntax.Proofs.Views

/-!
# Checked parsing does what parsing does

A tally tracks a parser if it holds the same parser, which has room for what is left of its text,
with a number of conditionals that are open and the productions that are entered (`Tracks`).
Checked actions take tallies that track parsers to such again, and back to the same number of open
conditionals whether they succeed or fail (`FailsAt`); no check is in their way. `Refines` is put
together along the actions, and `Tally.parse_eq` is what it comes to.
-/

namespace VinylSyntax

/-! ## Parsers that have room -/

namespace Lookahead

/-- Where the lexer has room, the next token is consumed without a fault, as it is without
checks. -/
theorem readChecked_eq {lookahead : Lookahead} (h : lookahead.lexer.Roomy) :
    lookahead.readChecked = .ok lookahead.read := by
  have hnext := (Lexer.nextChecked_eq h).1
  cases hpending : lookahead.pending with
  | none => simp only [readChecked, read, hpending]
  | some item =>
    cases item with
    | error error => simp only [readChecked, read, hpending]
    | ok token =>
      simp only [readChecked, read, hpending, hnext]
      rfl

end Lookahead

/-- A parser has room for what is left of its text, and what it holds is placed. -/
structure Parser.Safe (parser : Parser) : Prop where
  roomy : parser.tokens.lexer.Roomy
  placed : ∀ item, parser.tokens.pending = some item → item.Placed

namespace Parser

/-- Whether a parser is safe depends on its tokens only. -/
theorem Safe.of_tokens_eq {parser other : Parser} (h : parser.Safe)
    (htokens : other.tokens = parser.tokens) : other.Safe := by
  obtain ⟨hroomy, hplaced⟩ := h
  rw [← htokens] at hroomy hplaced
  exact ⟨hroomy, hplaced⟩

/-- Tracing an event leaves a parser safe. -/
theorem Safe.trace {parser : Parser} (h : parser.Safe) (event : Event) :
    (parser.trace event).Safe :=
  h.of_tokens_eq (parser.tokens_trace event)

/-- A parser in front of the next item of a lexer that has room is safe. -/
theorem safe_next {lexer : Lexer} (h : lexer.Roomy) {parser : Parser}
    (hlexer : parser.tokens.lexer = lexer.next.lexer)
    (hpending : parser.tokens.pending = lexer.next.item) : parser.Safe := by
  refine ⟨hlexer ▸ (Lexer.nextChecked_eq h).2, fun item hitem => ?_⟩
  exact Lexer.placed_of_next h (hpending.symm.trans hitem)

/-- A parser of a lexer that has room is made without a fault, and has room. -/
theorem ofLexerChecked_eq (preferences : SyntaxPreferences) {lexer : Lexer} (h : lexer.Roomy)
    (earlier : List Event) :
    ofLexerChecked preferences lexer earlier = .ok (ofLexer preferences lexer earlier) ∧
      (ofLexer preferences lexer earlier).Safe := by
  refine ⟨?_, safe_next h rfl rfl⟩
  rw [ofLexerChecked, Lookahead.ofLexerChecked, (Lexer.nextChecked_eq h).1]
  rfl

/-- Behind a token there is still room. -/
theorem Safe.behindToken {parser : Parser} (h : parser.Safe) : parser.behindToken.Safe := by
  cases hpending : parser.tokens.pending with
  | none => exact h.of_tokens_eq (by simp only [Parser.behindToken, Lookahead.read, hpending])
  | some item =>
    cases item with
    | error error =>
      exact h.of_tokens_eq (by simp only [Parser.behindToken, Lookahead.read, hpending])
    | ok token =>
      exact safe_next h.roomy (by simp only [Parser.behindToken, Lookahead.read, hpending])
        (by simp only [Parser.behindToken, Lookahead.read, hpending])

/-- A safe parser passes its token without a fault. -/
theorem Safe.behindTokenChecked {parser : Parser} (h : parser.Safe) :
    parser.behindTokenChecked = .ok parser.behindToken := by
  rw [Parser.behindTokenChecked, Lookahead.readChecked_eq h.roomy]
  rfl

end Parser

/-! ## Tallies -/

/-- A tally holds a parser that has room, with `depth` conditionals open and in the productions
`entered`. -/
structure Tracks (depth : Nat) (entered : List Production) (tally : Tally) (parser : Parser) :
    Prop where
  tally_eq : tally = ⟨parser, depth, entered⟩
  productions_eq : parser.productions = entered
  safe : parser.Safe

/-- The conditionals that an error refuses before their branches are read. -/
def SyntaxError.refusals : SyntaxError → Nat
  | .nestingTooDeep _ _ => 1
  | _ => 0

/-- A tally and its parser fail with the same error and are back at `depth` open conditionals. Of
the productions entered on top of `entered`, the parser has left one for each conditional whose
branches failed. -/
structure FailsAt (depth : Nat) (entered : List Production) (stop : Stop) (tally : Tally)
    (error : SyntaxError) (parser : Parser) : Prop where
  stop_eq : stop = .refused error
  parser_eq : tally.parser = parser
  depth_eq : tally.depth = depth
  column_pos : 1 ≤ error.span.start.column
  safe : parser.Safe
  left_eq : ∃ fresh left, tally.opened = fresh ++ entered ∧
    left + error.refusals = fresh.count .conditional ∧ parser.productions = tally.opened.drop left

section tallies

variable {depth : Nat} {entered : List Production} {tally : Tally} {parser : Parser}

/-- A refusal of what is ahead is one of the tally and of the parser that it tracks. -/
theorem Tracks.fails (h : Tracks depth entered tally parser) {error : SyntaxError}
    (hcolumn : 1 ≤ error.span.start.column) (hrefusals : error.refusals = 0) :
    FailsAt depth entered (.refused error) tally error parser := by
  obtain ⟨rfl, hproductions, hsafe⟩ := h
  exact ⟨rfl, rfl, rfl, hcolumn, hsafe, [], 0, rfl, by simp [hrefusals], hproductions⟩

/-- A production that is not left behind an error counts as entered on top. -/
theorem FailsAt.of_entered {production : Production} (hproduction : production ≠ .conditional)
    {stop : Stop} {error : SyntaxError}
    (h : FailsAt depth (production :: entered) stop tally error parser) :
    FailsAt depth entered stop tally error parser := by
  obtain ⟨fresh, left, hopened, hleft, hproductions⟩ := h.left_eq
  refine ⟨h.stop_eq, h.parser_eq, h.depth_eq, h.column_pos, h.safe, fresh ++ [production], left, ?_,
    ?_, hproductions⟩
  · simpa using hopened
  · simpa [List.count_append, hproduction] using hleft

/-- A conditional is left behind an error in its branches, though it was not completed. -/
theorem FailsAt.of_branches {stop : Stop} {error : SyntaxError}
    (h : FailsAt (depth + 1) (.conditional :: entered) stop tally error parser) :
    FailsAt depth entered stop
      ⟨{ tally.parser with productions := tally.parser.productions.tail }, depth, tally.opened⟩
      error { parser with productions := parser.productions.tail } := by
  obtain ⟨fresh, left, hopened, hleft, hproductions⟩ := h.left_eq
  obtain rfl := h.parser_eq
  refine ⟨h.stop_eq, rfl, rfl, h.column_pos, h.safe.of_tokens_eq rfl, fresh ++ [.conditional],
    left + 1, ?_, ?_, ?_⟩
  · simpa using hopened
  · simp only [List.count_append, List.count_singleton_self]
    omega
  · simp [hproductions]

end tallies

/-! ## Actions -/

/-- A tally tracks a parser, and what was read has a property. -/
def Yields {α : Type} (depth : Nat) (entered : List Production) (holds : α → Prop) (value : α)
    (tally : Tally) (parser : Parser) : Prop :=
  holds value ∧ Tracks depth entered tally parser

/-- Wherever `depth` conditionals are open, a checked action does what an action does, from inside
the productions `before` to inside the productions `after`, and what it reads has a property. -/
def Refines {α : Type} (depth : Nat) (before after : List Production) (holds : α → Prop)
    (checked : Checked α) (action : Parse α) : Prop :=
  Simulates (Tracks depth before) (Yields depth after holds) (FailsAt depth before) checked action

/-- A token begins at a column that is counted from one. -/
def Token.Placed (token : Token) : Prop := 1 ≤ token.span.start.column

section refines

variable {α β : Type} {depth : Nat} {before after : List Production} {holds : α → Prop}
  {checked : Checked α} {action : Parse α}

/-- Returning a value that has the property does the same with checks and without. -/
theorem Refines.pure (value : α) (h : holds value) :
    Refines depth before before holds (pure value) (pure value) :=
  Simulates.pure value fun _ _ htracks => ⟨h, htracks⟩

/-- Actions that do the same with checks and without do so behind one another, where what the first
one reads has its property. -/
theorem Refines.bind {holds' : β → Prop} {next : α → Checked β} {next' : α → Parse β}
    (h : Refines depth before before holds checked action)
    (hnext : ∀ value, holds value → Refines depth before after holds' (next value) (next' value)) :
    Refines depth before after holds' (checked >>= next) (action >>= next') :=
  Simulates.bind h fun value tally parser htracks => hnext value htracks.1 tally parser htracks.2

/-- A choice between actions that do the same with checks and without does the same. -/
theorem Refines.ite {test : Bool} {second : Checked α} {second' : Parse α}
    (htrue : Refines depth before after holds checked action)
    (hfalse : Refines depth before after holds second second') :
    Refines depth before after holds (if test = true then checked else second)
      (if test = true then action else second') :=
  Simulates.ite (fun _ => htrue) fun _ => hfalse

/-- Refusing what is ahead does the same with checks and without. -/
theorem Refines.throw {error : SyntaxError} (hcolumn : 1 ≤ error.span.start.column)
    (hrefusals : error.refusals = 0) :
    Refines depth before after holds (throw (.refused error)) (throw error) :=
  Simulates.throw fun _ _ htracks => htracks.fails hcolumn hrefusals

end refines

namespace Checked

variable {α : Type} {depth : Nat} {before after : List Production} {holds : α → Prop}
  {checked otherwise : Checked α} {action otherwise' : Parse α}

/-! ## Tokens -/

/-- Comments are passed as they are without checks. -/
theorem skipComments_refines :
    Refines depth before before (fun _ => True) skipComments Parse.skipComments := by
  intro tally parser htracks
  obtain ⟨rfl, hproductions, hsafe⟩ := htracks
  fun_induction Parse.skipComments parser with
  | case1 parser hpending =>
    rw [skipComments_of_none hpending]
    exact .ok ⟨trivial, rfl, hproductions, hsafe⟩
  | case2 parser error hpending =>
    rw [skipComments_of_error hpending]
    have htracks : Tracks depth before _ parser := ⟨rfl, hproductions, hsafe⟩
    exact .error (htracks.fails (hsafe.placed _ hpending) rfl)
  | case3 parser token hpending hcomment hlt ih =>
    rw [skipComments_of_comment hpending hcomment hsafe.behindTokenChecked]
    exact ih hproductions hsafe.behindToken
  | case4 parser token hpending hcomment =>
    rw [skipComments_of_token hpending (by simpa using hcomment)]
    exact .ok ⟨trivial, rfl, hproductions, hsafe⟩

/-- The next token is looked at as it is without checks. -/
theorem peek_refines :
    Refines depth before before (fun _ => True) (looking Parse.peek) Parse.peek := by
  intro tally parser htracks
  obtain ⟨rfl, hproductions, hsafe⟩ := htracks
  have htracks : Tracks depth before _ parser := ⟨rfl, hproductions, hsafe⟩
  cases hpending : parser.tokens.pending with
  | none =>
    simp only [looking, Parse.peek, Lookahead.peek, hpending]
    exact .ok ⟨trivial, htracks⟩
  | some item =>
    cases item with
    | error error =>
      simp only [looking, Parse.peek, Lookahead.peek, hpending]
      exact .error (htracks.fails (hsafe.placed _ hpending) rfl)
    | ok token =>
      simp only [looking, Parse.peek, Lookahead.peek, hpending]
      exact .ok ⟨trivial, htracks⟩

/-- An unexpected token is refused as it is without checks. -/
theorem unexpected_refines (expected : Expectation) :
    Refines depth before after holds (looking (Parse.unexpected expected))
      (Parse.unexpected expected) := by
  intro tally parser htracks
  obtain ⟨rfl, hproductions, hsafe⟩ := htracks
  have htracks : Tracks depth before _ parser := ⟨rfl, hproductions, hsafe⟩
  cases hpending : parser.tokens.pending with
  | none =>
    simp only [looking, Parse.unexpected, Lookahead.peek, hpending]
    exact .error (htracks.fails hsafe.roomy.column_pos rfl)
  | some item =>
    cases item with
    | error error =>
      simp only [looking, Parse.unexpected, Lookahead.peek, hpending]
      exact .error (htracks.fails (hsafe.placed _ hpending) rfl)
    | ok token =>
      simp only [looking, Parse.unexpected, Lookahead.peek, hpending]
      exact .error (htracks.fails (hsafe.placed _ hpending) rfl)

/-- The next token is consumed as it is without checks, and is placed. -/
theorem advance_refines : Refines depth before before Token.Placed advance Parse.advance := by
  intro tally parser htracks
  obtain ⟨rfl, hproductions, hsafe⟩ := htracks
  have htracks : Tracks depth before _ parser := ⟨rfl, hproductions, hsafe⟩
  cases hpending : parser.tokens.pending with
  | none =>
    simp only [advance, Parse.advance, Lookahead.read, hpending]
    exact .error (htracks.fails hsafe.roomy.column_pos rfl)
  | some item =>
    cases item with
    | error error =>
      simp only [advance, Parse.advance, Lookahead.read, hpending]
      exact .error (htracks.fails (hsafe.placed _ hpending) rfl)
    | ok token =>
      simp only [advance, Parse.advance, Lookahead.read, hpending, hsafe.behindTokenChecked]
      refine .ok ⟨hsafe.placed _ hpending, rfl, ?_, hsafe.behindToken.trace _⟩
      rw [Parser.productions_trace]
      exact hproductions

/-- The end of the tokens is found as it is without checks. -/
theorem atEnd_refines : Refines depth before before (fun _ => True) atEnd Parse.atEnd :=
  skipComments_refines.bind fun _ _ => peek_refines.bind fun _ _ => .pure _ trivial

/-- The next token is tested as it is without checks. -/
theorem nextIs_refines (accept : Token → Bool) :
    Refines depth before before (fun _ => True) (nextIs accept) (Parse.nextIs accept) :=
  skipComments_refines.bind fun _ _ => peek_refines.bind fun _ _ => .pure _ trivial

/-- The next token is accepted. -/
structure Next (accept : Token → Bool) (parser : Parser) : Prop where
  ready : parser.Ready
  accepted : parser.ahead.tokens.head?.any accept = true

/-- Whether the next token is accepted depends on the tokens only. -/
theorem Next.of_tokens_eq {accept : Token → Bool} {parser other : Parser}
    (h : Next accept parser) (htokens : other.tokens = parser.tokens) : Next accept other := by
  obtain ⟨hready, haccepted⟩ := h
  rw [Parser.Ready, ← htokens] at hready
  rw [Parser.ahead, ← htokens] at haccepted
  exact ⟨hready, haccepted⟩

/-- Behind a test that holds, the next token is accepted. -/
theorem next_of_nextIs {accept : Token → Bool} {parser behind : Parser} {value : Bool}
    (h : Parse.nextIs accept parser = .ok value behind) (hvalue : value = true) :
    Next accept behind := by
  rcases Parse.nextIs_decides accept parser with
    ⟨ready, hresult, hready, hahead, -⟩ | ⟨error, stuck, hresult, -⟩ <;>
    rw [h] at hresult <;> cases hresult
  rw [← hahead] at hvalue
  exact ⟨hready, hvalue⟩

/-- A tally tracks a parser whose next token is accepted. -/
def TracksNext (depth : Nat) (entered : List Production) (accept : Token → Bool) (tally : Tally)
    (parser : Parser) : Prop :=
  Tracks depth entered tally parser ∧ Next accept parser

/-- Choosing between two actions by the next token, which the first may rely on. -/
theorem choice_next_refines {accept : Token → Bool}
    (h : Simulates (TracksNext depth before accept) (Yields depth after holds)
      (FailsAt depth before) checked action)
    (hotherwise : Refines depth before after holds otherwise otherwise') :
    Refines depth before after holds (do if ← nextIs accept then checked else otherwise)
      (do if ← Parse.nextIs accept then action else otherwise') :=
  ((nextIs_refines accept).learn fun _ _ _ => next_of_nextIs).bind fun _ => .ite
    (fun htrue => h.weaken (fun _ _ h => ⟨h.1.2, h.2 htrue⟩) (fun _ _ _ h => h) fun _ _ _ _ h => h)
    fun _ => hotherwise.weaken (fun _ _ h => h.1.2) (fun _ _ _ h => h) fun _ _ _ _ h => h

/-- Choosing between two actions by the next token. -/
theorem choice_refines {accept : Token → Bool}
    (h : Refines depth before after holds checked action)
    (hotherwise : Refines depth before after holds otherwise otherwise') :
    Refines depth before after holds (do if ← nextIs accept then checked else otherwise)
      (do if ← Parse.nextIs accept then action else otherwise') :=
  (nextIs_refines accept).bind fun _ _ => h.ite hotherwise

/-- Going on behind the next token if it is accepted, and otherwise in another way. -/
theorem choice_advance_refines {accept : Token → Bool} {next : Token → Checked α}
    {next' : Token → Parse α}
    (h : ∀ token, Refines depth before after holds (next token) (next' token))
    (hotherwise : Refines depth before after holds otherwise otherwise') :
    Refines depth before after holds (do if ← nextIs accept then next (← advance) else otherwise)
      (do if ← Parse.nextIs accept then next' (← Parse.advance) else otherwise') :=
  (nextIs_refines accept).bind fun _ _ =>
    .ite (advance_refines.bind fun token _ => h token) hotherwise

/-- An expected token is consumed as it is without checks, and is placed. -/
theorem expect_refines (accept : Token → Bool) (expected : Expectation) :
    Refines depth before before Token.Placed (expect accept expected)
      (Parse.expect accept expected) :=
  choice_refines advance_refines (unexpected_refines expected)

/-- Collecting goes on on both sides or ends on both, as both hold the same parser. -/
theorem collectFrom_refines {stop : Checked Bool} {stop' : Parse Bool}
    {checked : Checked (Option α)} {action : Parse (Option α)}
    (hstop : Refines depth before before (fun _ => True) stop stop')
    (haction : Refines depth before before (fun _ => True) checked action) (found : List α) :
    Refines depth before before (fun _ => True) (collectFrom stop checked found)
      (Parse.collectFrom stop' action found) := by
  intro tally parser htracks
  induction hallowance : parser.allowance using Nat.strongRecOn
    generalizing tally parser found with
  | ind _ ih =>
    rw [collectFrom, Parse.collectFrom]
    rcases (hstop tally parser htracks).inv with
      ⟨ended, ready, ready', hended, hended', -, hready⟩ |
      ⟨error, stuck, error', stuck', hstuck, hstuck', hfails⟩
    · rw [hended, hended']
      cases ended with
      | true => exact .ok ⟨trivial, hready⟩
      | false =>
        simp only
        rcases (haction ready ready' hready).inv with
          ⟨value, behind, behind', hvalue, hvalue', -, hbehind⟩ |
          ⟨error, stuck, error', stuck', hstuck, hstuck', hfails⟩
        · rw [hvalue, hvalue']
          obtain ⟨rfl, -, -⟩ := htracks
          obtain ⟨rfl, -, -⟩ := id hbehind
          simp only
          split
          · next hlt => exact ih behind'.allowance (by omega) _ _ behind' hbehind rfl
          · exact .ok ⟨trivial, hbehind⟩
        · rw [hstuck, hstuck']
          exact .error hfails
    · rw [hstuck, hstuck']
      exact .error hfails

/-! ## Productions -/

/-- Entering a production reads nothing. -/
theorem enter_eq {tally : Tally} {parser : Parser} (h : Tracks depth before tally parser)
    (production : Production) :
    ∃ entered inside, enter production tally = .ok () entered ∧
      Parse.enter production parser = .ok () inside ∧
      Tracks depth (production :: before) entered inside ∧ inside.tokens = parser.tokens := by
  obtain ⟨rfl, hproductions, hsafe⟩ := h
  refine ⟨_, _, rfl, rfl, ⟨rfl, ?_, hsafe.of_tokens_eq (Parser.tokens_trace _ _)⟩,
    Parser.tokens_trace _ _⟩
  rw [Parser.productions_trace]
  exact congrArg (production :: ·) hproductions

/-- Entering a production is tracked, one production further in. -/
theorem enter_tracks (production : Production)
    {failing : Stop → Tally → SyntaxError → Parser → Prop} :
    Simulates (Tracks depth before) (fun _ => Tracks depth (production :: before)) failing
      (enter production) (Parse.enter production) := by
  intro tally parser htracks
  obtain ⟨entered, inside, hentered, hinside, htracks', -⟩ := enter_eq htracks production
  rw [hentered, hinside]
  exact .ok htracks'

/-- A production that is entered; an error inside does not leave it. -/
theorem enter_refines {production : Production} (hproduction : production ≠ .conditional)
    (h : Refines depth (production :: before) after holds checked action) :
    Refines depth before after holds (do enter production; checked)
      (do Parse.enter production; action) :=
  (enter_tracks production).bind fun _ => h.weaken (fun _ _ h => h) (fun _ _ _ h => h)
    fun _ _ _ _ h => h.of_entered hproduction

/-- A production that is left when its value is complete. -/
theorem leave_refines {production : Production} (value : α) (h : holds value) :
    Refines depth (production :: before) before holds (do leave; return value)
      (do Parse.leave; return value) := by
  rintro _ parser ⟨rfl, hproductions, hsafe⟩
  exact .ok ⟨h, rfl, congrArg List.tail hproductions, hsafe.of_tokens_eq rfl⟩

/-- An identifier is read as it is without checks, and is placed. -/
theorem identifier_refines (expected : Expectation) :
    Refines depth before before (fun identifier => identifier.token.Placed) (identifier expected)
      (Parse.identifier expected) :=
  (expect_refines _ _).bind fun _ hplaced => .pure _ hplaced

/-- The name of a type is read as it is without checks. -/
theorem typeName_refines (expected : Expectation) :
    Refines depth before before (fun _ => True) (typeName expected) (Parse.typeName expected) :=
  (expect_refines _ _).bind fun _ _ => .pure _ trivial

/-- An expression is read as it is without checks. -/
theorem expression_refines :
    Refines depth before before (fun _ => True) expression Parse.expression :=
  (expect_refines _ _).bind fun _ _ => .pure _ trivial

/-- An argument is read as it is without checks. -/
theorem argument_refines : Refines depth before before (fun _ => True) argument Parse.argument :=
  enter_refines (by decide) <| (identifier_refines _).bind fun _ _ =>
    (typeName_refines _).bind fun _ _ => leave_refines _ trivial

/-- A declaration is read as it is without checks. -/
theorem declaration_refines :
    Refines depth before before (fun _ => True) declaration Parse.declaration :=
  enter_refines (by decide) <| (expect_refines _ _).bind fun _ _ =>
    (identifier_refines _).bind fun _ _ => (typeName_refines _).bind fun _ _ =>
    choice_advance_refines
      (fun _ => expression_refines.bind fun _ _ => leave_refines _ trivial)
      (leave_refines _ trivial)

/-- An expression with its semicolon is read as it is without checks. -/
theorem expressionStatement_refines :
    Refines depth before before (fun _ => True) expressionStatement Parse.expressionStatement :=
  enter_refines (by decide) <| expression_refines.bind fun _ _ =>
    (expect_refines _ _).bind fun _ _ => leave_refines _ trivial

/-- The end of a block is found as it is without checks. -/
theorem blockEnds_refines :
    Refines depth before before (fun _ => True) blockEnds Parse.blockEnds :=
  atEnd_refines.bind fun _ _ => .ite (.pure _ trivial) (nextIs_refines _)

section block

variable {statement : Checked (Option Statement)} {statement' : Parse (Option Statement)}
  (hstatement : ∀ before, Refines depth before before (fun _ => True) statement statement')

include hstatement

/-- A block is read as it is without checks if its statements are. -/
theorem block_refines (role : BlockRole) :
    Refines depth before before (fun _ => True) (block statement role)
      (Parse.block statement' role) :=
  enter_refines (by decide) <| (expect_refines _ _).bind fun _ _ =>
    (collectFrom_refines blockEnds_refines (hstatement _) []).bind fun _ _ =>
    (expect_refines _ _).bind fun _ _ => leave_refines _ trivial

/-- The branches of a conditional are read as they are without checks if their statements are. -/
theorem branches_refines :
    Refines depth before before (fun _ => True) (branches statement) (Parse.branches statement') :=
  expression_refines.bind fun _ _ => (block_refines hstatement _).bind fun _ _ =>
    choice_advance_refines (fun _ => (block_refines hstatement _).bind fun _ _ => .pure _ trivial)
      (.pure _ trivial)

end block

/-! ## Conditionals -/

/-- Entering a production leaves the next token accepted. -/
theorem enter_next (production : Production) (accept : Token → Bool)
    {failing : Stop → Tally → SyntaxError → Parser → Prop} :
    Simulates (TracksNext depth before accept)
      (fun _ => TracksNext depth (production :: before) accept) failing (enter production)
      (Parse.enter production) := by
  rintro tally parser ⟨htracks, hnext⟩
  obtain ⟨entered, inside, hentered, hinside, htracks', htokens⟩ := enter_eq htracks production
  rw [hentered, hinside]
  exact .ok ⟨htracks', hnext.of_tokens_eq htokens⟩

/-- A token that is next is consumed. -/
theorem Next.expect_eq {accept : Token → Bool} {parser : Parser} (h : Next accept parser)
    (expected : Expectation) :
    ∃ token behind, Parse.expect accept expected parser = .ok token behind := by
  rcases Parse.nextIs_decides accept parser with
    ⟨ready, hresult, hready, hahead, -⟩ | ⟨error, stuck, -, hahead⟩
  · obtain ⟨token, htoken, -⟩ := (Option.any_eq_true _ _).1 h.accepted
    rw [← hahead] at htoken
    obtain ⟨behind, hadvance, -⟩ := Parse.advance_ready hready htoken
    refine ⟨token, behind, ?_⟩
    rw [Parse.expect, Parse.bind_ok hresult]
    exact (congrFun (if_pos h.accepted) ready).trans hadvance
  · exact absurd hahead (Parse.not_failed_of_ready h.ready error)

/-- A token that is known to be next is consumed without a failure. -/
theorem expect_next {accept : Token → Bool} (expected : Expectation)
    {failing : Stop → Tally → SyntaxError → Parser → Prop} :
    Simulates (TracksNext depth before accept) (Yields depth before Token.Placed) failing
      (expect accept expected) (Parse.expect accept expected) :=
  (expect_refines accept expected).succeeds (fun _ _ h => h.1) fun _ _ h => h.2.expect_eq expected

/-- The counter is counted down again behind the branches of a conditional, even if they fail. -/
theorem deeper_refines
    (h : Refines (depth + 1) (.conditional :: before) (.conditional :: before) holds checked
      action) :
    Simulates (Tracks depth (.conditional :: before)) (Yields depth before holds)
      (FailsAt depth before) (deeper checked) (Parse.leaving action) := by
  rintro _ parser ⟨rfl, hproductions, hsafe⟩
  unfold deeper Parse.leaving
  rcases (h ⟨parser, depth + 1, .conditional :: before⟩ parser ⟨rfl, hproductions, hsafe⟩).inv with
    ⟨value, _, behind, hresult, hresult', hholds, ⟨rfl, hbehind, hroom⟩⟩ |
    ⟨_, stuck, error, stuck', hresult, hresult', hfails⟩
  · simp only [hresult, hresult', subtractChecked_of_le (Nat.le_add_left 1 depth)]
    exact .ok ⟨hholds, rfl, congrArg List.tail hbehind, hroom.of_tokens_eq rfl⟩
  · obtain rfl := hfails.stop_eq
    have hsubtract : subtractChecked stuck.depth 1 = .ok depth := by
      rw [hfails.depth_eq]
      exact subtractChecked_of_le (Nat.le_add_left 1 depth)
    simp only [hresult, hresult', hsubtract]
    exact .error hfails.of_branches

section conditional

variable {statement : Checked (Option Statement)} {statement' : Parse (Option Statement)}

/-- A checked action does what an action does in front of a conditional. -/
def RefinesConditional (depth : Nat) (before : List Production) (checked : Checked Statement)
    (action : Parse Statement) : Prop :=
  Simulates (TracksNext depth before (Token.isKeyword .ifWord))
    (Yields depth before fun _ => True) (FailsAt depth before) checked action

/-- Where as many conditionals are open as may be nested, a further one is refused. -/
theorem conditional_none_refines :
    RefinesConditional Limits.nestingDepth before (conditional statement)
      (Parse.conditional none) := by
  refine (enter_next .conditional _).bind fun _ => (expect_next .conditionalKeyword).bind
    fun token => ?_
  rintro _ parser ⟨hplaced, rfl, hproductions, hsafe⟩
  exact .error ⟨rfl, rfl, rfl, hplaced, hsafe, [.conditional], 0, rfl, rfl, hproductions⟩

/-- Where fewer are open, the branches are read one level deeper. -/
theorem conditional_some_refines (hdepth : depth < Limits.nestingDepth)
    (hstatement : ∀ before,
      Refines (depth + 1) before before (fun _ => True) statement statement') :
    RefinesConditional depth before (conditional statement)
      (Parse.conditional (some statement')) := by
  refine (enter_next .conditional _).bind fun _ => (expect_next .conditionalKeyword).bind
    fun token => ?_
  rintro tally parser ⟨hplaced, htracks⟩
  have hbranches := deeper_refines (branches_refines hstatement) tally parser htracks
  obtain ⟨rfl, -, -⟩ := htracks
  show Corresponds _ _ ((if Limits.nestingDepth ≤ depth then _ else _ : Checked Statement) _) _
  rw [if_neg (Nat.not_le.2 hdepth)]
  exact hbranches

end conditional

/-! ## Statements -/

/-- A statement is read as without checks if a conditional is. -/
theorem statementWith_refines {nested : Checked (Option Statement)}
    {nested' : Option (Parse (Option Statement))}
    (hconditional : RefinesConditional depth before (conditional nested)
      (Parse.conditional nested')) :
    Refines depth before before (fun _ => True) (statementWith nested)
      (Parse.statementWith nested') :=
  choice_refines (declaration_refines.bind fun _ _ => .pure _ trivial) <|
    choice_next_refines (Simulates.bind hconditional fun _ => .pure _ fun _ _ h => h) <|
    choice_advance_refines (fun _ => .pure _ trivial)
      (expressionStatement_refines.bind fun _ _ => .pure _ trivial)

/-- The levels on which conditionals may still be nested are those that the counter has not
reached, so that the recursion is never exhausted. -/
theorem statement_refines {levels : Nat} (h : depth + levels = Limits.nestingDepth) :
    Refines depth before before (fun _ => True) (statement levels) (Parse.statement levels) := by
  induction levels generalizing depth before with
  | zero =>
    obtain rfl : depth = Limits.nestingDepth := h
    exact statementWith_refines conditional_none_refines
  | succ levels ih =>
    exact statementWith_refines (conditional_some_refines (by omega) fun _ => ih (by omega))

/-! ## Programs -/

/-- Further arguments are read as they are without checks, or refused where there are too many. -/
theorem argumentsFrom_refines {function : Identifier} (hfunction : function.token.Placed)
    (found : List Argument) (allowed : Nat) :
    Refines depth before before (fun _ => True) (argumentsFrom function found allowed)
      (Parse.argumentsFrom function found allowed) := by
  induction allowed generalizing found with
  | zero => exact argument_refines.bind fun _ _ => .throw hfunction rfl
  | succ allowed ih =>
    exact argument_refines.bind fun argument _ =>
      choice_advance_refines (fun _ => ih (argument :: found)) (.pure _ trivial)

/-- The arguments of a function are read as they are without checks. -/
theorem arguments_refines {function : Identifier} (hfunction : function.token.Placed) :
    Refines depth before before (fun _ => True) (arguments function) (Parse.arguments function) :=
  choice_refines (.pure _ trivial) (argumentsFrom_refines hfunction [] _)

/-- The type that a function returns is read as it is without checks. -/
theorem returnType_refines :
    Refines depth before before (fun _ => True) returnType Parse.returnType :=
  choice_refines (.pure _ trivial) ((typeName_refines _).bind fun _ _ => .pure _ trivial)

/-- A function is read as it is without checks. -/
theorem function_refines : Refines 0 before before (fun _ => True) function Parse.function :=
  enter_refines (by decide) <| (expect_refines _ _).bind fun _ _ =>
    (identifier_refines _).bind fun _ hidentifier => (expect_refines _ _).bind fun _ _ =>
    (arguments_refines hidentifier).bind fun _ _ => (expect_refines _ _).bind fun _ _ =>
    returnType_refines.bind fun _ _ =>
    (block_refines (fun _ => statement_refines (Nat.zero_add _)) _).bind fun _ _ =>
    leave_refines _ trivial

/-- A part of a program is read as it is without checks. -/
theorem topLevel_refines : Refines 0 before before (fun _ => True) topLevel Parse.topLevel :=
  choice_refines (function_refines.bind fun _ _ => .pure _ trivial)
    ((statement_refines (Nat.zero_add _)).bind fun _ _ => .pure _ trivial)

/-- A program is read as it is without checks. -/
theorem program_refines : Refines 0 before before (fun _ => True) program Parse.program :=
  enter_refines (by decide) <|
    (collectFrom_refines atEnd_refines topLevel_refines []).bind fun _ _ => leave_refines _ trivial

end Checked

/-! ## Outcomes -/

namespace Tally

variable {tally : Tally}

/-- Parsing with all checks ends as parsing does, with no conditional open. -/
theorem parse_eq (hdepth : tally.depth = 0) (hsafe : tally.parser.Safe) :
    ∃ behind, tally.parse = .ok (tally.parser.parse.1, behind) ∧ behind.depth = 0 ∧
      behind.parser = tally.parser.parse.2 ∧ behind.parser.Safe ∧
      ∀ error, tally.parser.parse.1 = .error error →
        FailsAt 0 tally.parser.productions (.refused error) behind error behind.parser := by
  obtain ⟨parser, depth, opened⟩ := tally
  obtain rfl : depth = 0 := hdepth
  have htracks : Tracks 0 parser.productions ⟨parser, 0, parser.productions⟩ parser :=
    ⟨rfl, rfl, hsafe⟩
  unfold Tally.parse Parser.parse
  rcases (Checked.program_refines _ _ htracks).inv with
    ⟨parts, _, behind, hresult, hresult', -, rfl, -, hroom⟩ |
    ⟨_, stuck, error, _, hresult, hresult', hfails⟩
  · simp only [hresult, hresult']
    exact ⟨_, rfl, rfl, rfl, hroom.of_tokens_eq rfl, by simp⟩
  · obtain ⟨rfl, rfl, hstuck, hcolumn, hroom, hleft⟩ := hfails
    simp only [hresult, hresult']
    refine ⟨_, rfl, hstuck, rfl, hroom.of_tokens_eq rfl, ?_⟩
    rintro _ ⟨⟩
    exact ⟨rfl, rfl, hstuck, hcolumn, hroom.of_tokens_eq rfl, hleft⟩

/-- Parsing again and again with all checks does what parsing again and again does, and every error
is at a column counted from one. -/
theorem parseTimes_eq (hdepth : tally.depth = 0) (hsafe : tally.parser.Safe) (times : Nat) :
    ∃ behind, tally.parseTimes times = .ok ((tally.parser.parseTimes times).1, behind) ∧
      behind.depth = 0 ∧ behind.parser = (tally.parser.parseTimes times).2 ∧
      ∀ error, .error error ∈ (tally.parser.parseTimes times).1 → 1 ≤ error.span.start.column := by
  induction times generalizing tally with
  | zero => exact ⟨tally, rfl, hdepth, rfl, by simp [Parser.parseTimes]⟩
  | succ times ih =>
    obtain ⟨next, hparse, hnext, hparser, hroom, herror⟩ := parse_eq hdepth hsafe
    obtain ⟨behind, htimes, hbehind, hlast, herrors⟩ := ih hnext hroom
    rw [hparser] at htimes hlast herrors
    refine ⟨behind, ?_, hbehind, hlast, ?_⟩
    · simp only [Tally.parseTimes, hparse, htimes, bind, Except.bind]
      rfl
    · intro error hmem
      rcases List.mem_cons.1 hmem with hfirst | hlater
      · exact (herror error hfirst.symm).column_pos
      · exact herrors error hlater

end Tally

end VinylSyntax
