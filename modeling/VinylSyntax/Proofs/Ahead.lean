import VinylSyntax.Parser.State

/-!
# What is ahead of a parser

A parser sees the tokens ahead of it, comments aside, and how they end: in the end of the text or in
the first error of the lexer. `Parser.ahead` is this view. The actions that look at tokens are
described through it: `nextIs_decides` and `atEnd_decides` test its first token and leave it as it
is, `advance_ready` takes one token off it, and `unexpected_ready` reports its first token or its
ending.
-/

namespace VinylSyntax

/-- How the tokens of a text end: at the location behind the text, or in an error. -/
inductive Ending where
  | finished (location : Location)
  | failed (error : LexicalError)
deriving DecidableEq

/-- Tokens other than comments, and how they end. -/
@[ext]
structure Ahead where
  tokens : List Token
  ending : Ending
deriving DecidableEq

namespace Ahead

/-- The view with a further token in front, which is not seen if it is a comment. -/
def push (ahead : Ahead) (token : Token) : Ahead :=
  if token.isComment then ahead else ⟨token :: ahead.tokens, ahead.ending⟩

/-- The view with further tokens in front. -/
def behind (ahead : Ahead) (tokens : List Token) : Ahead := ⟨tokens ++ ahead.tokens, ahead.ending⟩

/-- The view behind further tokens shows these in front. -/
@[simp] theorem tokens_behind (ahead : Ahead) (tokens : List Token) :
    (ahead.behind tokens).tokens = tokens ++ ahead.tokens := rfl

/-- Further tokens leave the end of the view as it is. -/
@[simp] theorem ending_behind (ahead : Ahead) (tokens : List Token) :
    (ahead.behind tokens).ending = ahead.ending := rfl

/-- Behind no tokens, the view is the same. -/
@[simp] theorem behind_nil (ahead : Ahead) : ahead.behind [] = ahead := rfl

/-- Tokens stand in front of those that stood in front before. -/
@[simp] theorem behind_behind (ahead : Ahead) (first second : List Token) :
    (ahead.behind second).behind first = ahead.behind (first ++ second) := by
  simp [behind]

/-- A comment is not seen. -/
theorem push_comment {ahead : Ahead} {token : Token} (h : token.isComment = true) :
    ahead.push token = ahead := by
  simp [push, h]

/-- A token that is no comment is seen in front. -/
theorem push_token {ahead : Ahead} {token : Token} (h : token.isComment = false) :
    ahead.push token = ahead.behind [token] := by
  simp [push, behind, h]

end Ahead

namespace Lexer

/-- How the tokens of a lexer end. -/
def Tokens.ending (taken : Tokens) : Ending :=
  match taken.failure with
  | none => .finished taken.lexer.location
  | some error => .failed error

/-- What is ahead of a lexer. -/
def ahead (lexer : Lexer) : Ahead :=
  ⟨lexer.takeTokens.tokens.filter (!·.isComment), lexer.takeTokens.ending⟩

section takeTokens

variable {lexer : Lexer} (tokens : List Token) (events : List Event)

/-- Tokens have all been taken where the lexer gives nothing. -/
theorem takeTokensFrom_of_none (h : lexer.next.item = none) :
    takeTokensFrom tokens events lexer =
      ⟨tokens.reverse, none, (lexer.next.events.reverse ++ events).reverse, lexer.next.lexer⟩ := by
  rw [takeTokensFrom]
  split <;> simp_all

/-- Tokens have all been taken where the lexer gives an error. -/
theorem takeTokensFrom_of_error {error : LexicalError} (h : lexer.next.item = some (.error error)) :
    takeTokensFrom tokens events lexer =
      ⟨tokens.reverse, some error, (lexer.next.events.reverse ++ events).reverse,
        lexer.next.lexer⟩ := by
  rw [takeTokensFrom]
  split <;> simp_all

/-- A token that the lexer gives is taken behind those before, and more are taken. -/
theorem takeTokensFrom_of_token {token : Token} (h : lexer.next.item = some (.ok token)) :
    takeTokensFrom tokens events lexer =
      takeTokensFrom (token :: tokens) (lexer.next.events.reverse ++ events) lexer.next.lexer := by
  rw [takeTokensFrom]
  split <;> simp_all

/-- Tokens taken before stand in front of those that follow; all else is the same. -/
theorem takeTokensFrom_eq (lexer : Lexer) :
    ∃ events', takeTokensFrom tokens events lexer =
      { lexer.takeTokens with
        tokens := tokens.reverse ++ lexer.takeTokens.tokens, events := events' } := by
  unfold takeTokens
  induction hremaining : lexer.remaining using Nat.strongRecOn
    generalizing lexer tokens events with
  | ind _ ih =>
    cases hitem : lexer.next.item with
    | none => exact ⟨_, by simp [takeTokensFrom_of_none, hitem]; rfl⟩
    | some item =>
      cases item with
      | error error => exact ⟨_, by simp [takeTokensFrom_of_error _ _ hitem]; rfl⟩
      | ok token =>
        have hlt := lexer.remaining_next_lt (by simp [hitem])
        rw [hremaining] at hlt
        -- Both sides take the same token, on top of what each of them has.
        obtain ⟨_, hfirst⟩ :=
          ih _ hlt (token :: tokens) (lexer.next.events.reverse ++ events) lexer.next.lexer rfl
        obtain ⟨_, hsecond⟩ :=
          ih _ hlt [token] (lexer.next.events.reverse ++ []) lexer.next.lexer rfl
        rw [takeTokensFrom_of_token _ _ hitem, takeTokensFrom_of_token _ _ hitem, hfirst, hsecond]
        exact ⟨_, by simp; rfl⟩

end takeTokens

/-- A lexer that gives nothing shows the end of the text. -/
theorem ahead_of_none {lexer : Lexer} (h : lexer.next.item = none) :
    lexer.ahead = ⟨[], .finished lexer.next.lexer.location⟩ := by
  simp [ahead, takeTokens, takeTokensFrom_of_none _ _ h, Tokens.ending]

/-- A lexer that gives an error shows that error. -/
theorem ahead_of_error {lexer : Lexer} {error : LexicalError}
    (h : lexer.next.item = some (.error error)) : lexer.ahead = ⟨[], .failed error⟩ := by
  simp [ahead, takeTokens, takeTokensFrom_of_error _ _ h, Tokens.ending]

/-- A lexer that gives a token shows it, and what it shows behind it. -/
theorem ahead_of_token {lexer : Lexer} {token : Token}
    (h : lexer.next.item = some (.ok token)) :
    lexer.ahead = lexer.next.lexer.ahead.push token := by
  obtain ⟨_, htaken⟩ := takeTokensFrom_eq [token] (lexer.next.events.reverse ++ []) lexer.next.lexer
  have htokens : lexer.takeTokens = _ := (takeTokensFrom_of_token [] [] h).trans htaken
  rw [ahead, htokens, ahead, Ahead.push]
  cases hcomment : token.isComment <;> simp [Tokens.ending, hcomment]

end Lexer

namespace Lookahead

/-- What is ahead of a lookahead: the item that it holds and what follows it. -/
def ahead (lookahead : Lookahead) : Ahead :=
  match lookahead.pending with
  | none => ⟨[], .finished lookahead.location⟩
  | some (.error error) => ⟨[], .failed error⟩
  | some (.ok token) => lookahead.lexer.ahead.push token

/-- Holding the next item of a lexer changes nothing about what is ahead. -/
theorem ahead_pending_next (lexer : Lexer) (errorGiven : Bool) :
    (⟨lexer.next.lexer, lexer.next.item, errorGiven⟩ : Lookahead).ahead = lexer.ahead := by
  cases hitem : lexer.next.item with
  | none => rw [Lexer.ahead_of_none hitem, ahead, location]
  | some item =>
    cases item with
    | error error => rw [Lexer.ahead_of_error hitem, ahead]
    | ok token => rw [Lexer.ahead_of_token hitem, ahead]

/-- Looking ahead shows what the lexer shows. -/
@[simp] theorem ahead_ofLexer (lexer : Lexer) : (ofLexer lexer).1.ahead = lexer.ahead :=
  ahead_pending_next lexer false

/-- Reading takes the token that is held off what is ahead. -/
theorem ahead_read {lookahead : Lookahead} {token : Token}
    (h : lookahead.pending = some (.ok token)) :
    lookahead.ahead = lookahead.read.lookahead.ahead.push token := by
  simp only [read, h, ahead_pending_next]
  simp [ahead, h]

end Lookahead

namespace Parser

/-- What is ahead of a parser. -/
def ahead (parser : Parser) : Ahead := parser.tokens.ahead

/-- No comment and no error is the next item of a parser. -/
def Ready (parser : Parser) : Prop :=
  ∀ item, parser.tokens.pending = some item → ∃ token, item = .ok token ∧ token.isComment = false

/-- Tracing an event leaves the view as it is. -/
@[simp] theorem ahead_trace (parser : Parser) (event : Event) :
    (parser.trace event).ahead = parser.ahead := by
  simp [ahead]

/-- Tracing an event leaves what there is to read as it is. -/
@[simp] theorem allowance_trace (parser : Parser) (event : Event) :
    (parser.trace event).allowance = parser.allowance := by
  simp [allowance]

/-- A new parser is shown what its lexer shows. -/
@[simp] theorem ahead_ofLexer (preferences : SyntaxPreferences) (lexer : Lexer)
    (earlier : List Event) : (ofLexer preferences lexer earlier).ahead = lexer.ahead :=
  Lookahead.ahead_ofLexer lexer

/-- A pending token stands in front of what is shown behind it. -/
theorem ahead_behindToken {parser : Parser} {token : Token}
    (h : parser.tokens.pending = some (.ok token)) :
    parser.ahead = parser.behindToken.ahead.push token :=
  Lookahead.ahead_read h

/-- A parser that is ready holds the first token that is ahead, or rests behind the last one. -/
theorem Ready.pending_eq {parser : Parser} (hready : parser.Ready) :
    (∃ token, parser.tokens.pending = some (.ok token) ∧
      parser.ahead = parser.behindToken.ahead.behind [token]) ∨
    (parser.tokens.pending = none ∧ parser.ahead = ⟨[], .finished parser.tokens.location⟩) := by
  cases hpending : parser.tokens.pending with
  | none => exact .inr ⟨rfl, by simp [ahead, Lookahead.ahead, hpending]⟩
  | some item =>
    obtain ⟨token, rfl, hcomment⟩ := hready item hpending
    exact .inl ⟨token, rfl, by rw [ahead_behindToken hpending, Ahead.push_token hcomment]⟩

/-- A parser that is ready inspects the first token that is ahead. -/
theorem Ready.peek_eq {parser : Parser} (hready : parser.Ready) :
    parser.tokens.peek = .ok parser.ahead.tokens.head? := by
  rcases hready.pending_eq with ⟨token, hpending, hahead⟩ | ⟨hpending, hahead⟩
  · simp [Lookahead.peek, hpending, hahead]
  · simp [Lookahead.peek, hpending, hahead]

end Parser

namespace Parse

/-- Skipping comments leaves the view as it is. It fails if an error is all that is ahead. -/
theorem skipComments_spec (parser : Parser) :
    (∃ ready, skipComments parser = .ok () ready ∧ ready.Ready ∧ ready.ahead = parser.ahead ∧
      ready.allowance ≤ parser.allowance) ∨
    ∃ error stuck, skipComments parser = .error (.lexical error) stuck ∧
      parser.ahead = ⟨[], .failed error⟩ := by
  fun_induction skipComments parser with
  | case1 parser hpending =>
    -- Nothing is left.
    exact .inl ⟨parser, rfl, by simp [Parser.Ready, hpending], rfl, Nat.le_refl _⟩
  | case2 parser error hpending =>
    -- An error is next, and nothing is read behind it.
    exact .inr ⟨error, parser, rfl, by simp [Parser.ahead, Lookahead.ahead, hpending]⟩
  | case3 parser token hpending hcomment hlt ih =>
    -- A comment is next, which the view leaves out anyway.
    rw [Parser.ahead_behindToken hpending, Ahead.push_comment hcomment]
    rcases ih with ⟨ready, hresult, hready, hahead, hle⟩ | hfail
    · exact .inl ⟨ready, hresult, hready, hahead, by omega⟩
    · exact .inr hfail
  | case4 parser token hpending hcomment =>
    -- A token is next that is no comment.
    refine .inl ⟨parser, rfl, ?_, rfl, Nat.le_refl _⟩
    intro item hitem
    exact ⟨token, by simpa [hpending] using hitem.symm, by simpa using hcomment⟩

/-- An action tests the first token ahead, or that there is none, and leaves the view as it is. It
fails if an error is all that is ahead. -/
def Decides (action : Parse Bool) (test : Option Token → Bool) : Prop :=
  ∀ parser : Parser,
    (∃ ready, action parser = .ok (test parser.ahead.tokens.head?) ready ∧ ready.Ready ∧
      ready.ahead = parser.ahead ∧ ready.allowance ≤ parser.allowance) ∨
    ∃ error stuck, action parser = .error (.lexical error) stuck ∧
      parser.ahead = ⟨[], .failed error⟩

/-- Testing what is next adds nothing to what is left to read. -/
theorem Decides.allowance_le {action : Parse Bool} {test : Option Token → Bool}
    (h : Decides action test) {parser behind : Parser} {value : Bool}
    (hvalue : action parser = .ok value behind) : behind.allowance ≤ parser.allowance := by
  rcases h parser with ⟨ready, hready, -, -, hle⟩ | ⟨error, stuck, hstuck, -⟩
  · rw [hvalue] at hready
    cases hready
    exact hle
  · rw [hvalue] at hstuck
    cases hstuck

/-- Whether the next token is one of a sort is decided by the first token ahead. -/
theorem nextIs_decides (accept : Token → Bool) : Decides (nextIs accept) (·.any accept) := by
  intro parser
  rcases skipComments_spec parser with
    ⟨ready, hskip, hready, hahead, hle⟩ | ⟨error, stuck, hskip, hahead⟩
  · refine .inl ⟨ready, ?_, hready, hahead, hle⟩
    simp [nextIs, bind, EStateM.bind, hskip, peek, hready.peek_eq, hahead, pure, EStateM.pure]
  · exact .inr ⟨error, stuck, by simp [nextIs, bind, EStateM.bind, hskip], hahead⟩

/-- Whether the text has ended is decided by whether there is a token ahead. -/
theorem atEnd_decides : Decides atEnd Option.isNone := by
  intro parser
  rcases skipComments_spec parser with
    ⟨ready, hskip, hready, hahead, hle⟩ | ⟨error, stuck, hskip, hahead⟩
  · refine .inl ⟨ready, ?_, hready, hahead, hle⟩
    simp [atEnd, bind, EStateM.bind, hskip, peek, hready.peek_eq, hahead, pure, EStateM.pure]
  · exact .inr ⟨error, stuck, by simp [atEnd, bind, EStateM.bind, hskip], hahead⟩

/-- A parser that is ready gives the first token ahead when it advances. -/
theorem advance_ready {parser : Parser} (hready : parser.Ready) {token : Token}
    (htoken : parser.ahead.tokens.head? = some token) :
    ∃ behind, advance parser = .ok token behind ∧ parser.ahead = behind.ahead.behind [token] ∧
      behind.allowance < parser.allowance := by
  rcases hready.pending_eq with ⟨held, hpending, hahead⟩ | ⟨_, hahead⟩
  · obtain rfl : held = token := by simpa [hahead] using htoken
    refine ⟨_, by simp [advance, Lookahead.read, hpending]; rfl, by simpa using hahead, ?_⟩
    simpa using Parser.allowance_behindToken_lt hpending
  · simp [hahead] at htoken

/-- A parser that is ready refuses the first token ahead, or the end. -/
theorem unexpected_ready {α : Type} {parser : Parser} (hready : parser.Ready)
    (expected : Expectation) :
    (∃ token rest, parser.ahead.tokens = token :: rest ∧
      unexpected (α := α) expected parser = .error (.unexpectedToken expected token) parser) ∨
    ∃ location, parser.ahead = ⟨[], .finished location⟩ ∧
      unexpected (α := α) expected parser = .error (.unexpectedEnd expected location) parser := by
  rcases hready.pending_eq with ⟨token, hpending, hahead⟩ | ⟨hpending, hahead⟩
  · exact .inl ⟨token, _, by simp [hahead]; rfl, by simp [unexpected, Lookahead.peek, hpending]⟩
  · exact .inr ⟨_, hahead, by simp [unexpected, Lookahead.peek, hpending]⟩

end Parse

end VinylSyntax
