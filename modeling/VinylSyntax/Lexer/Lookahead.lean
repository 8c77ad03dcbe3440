import VinylSyntax.Lexer.Basic

/-!
# One item of lookahead

A lookahead holds the next item of a lexer, so that it can be inspected before it is consumed. The
first error stays: once it is the next item, inspecting and reading give it again and again, and the
lexer is not asked any further.
-/

namespace VinylSyntax

/-- A lexer together with its next item, which was already taken from it; there is none once the
lexer has finished. `errorGiven` tells whether the iteration has given the error. -/
structure Lookahead where
  lexer : Lexer
  pending : Option Item
  errorGiven : Bool
deriving Inhabited

namespace Lookahead

/-- Takes the next item of a lexer; also gives the events to be logged. -/
def ofLexer (lexer : Lexer) : Lookahead × List Event :=
  let step := lexer.next
  (⟨step.lexer, step.item, false⟩, step.events)

/-- The next token without consuming it: none at the end, the error if there is one. -/
def peek (lookahead : Lookahead) : Except LexicalError (Option Token) :=
  match lookahead.pending with
  | some (.ok token) => .ok (some token)
  | some (.error error) => .error error
  | none => .ok none

/-- What reading a token leads to: the token, the events to be logged, and the lookahead behind. -/
structure Reading where
  result : Except LexicalError (Option Token)
  events : List Event
  lookahead : Lookahead

/-- Consumes the next token. -/
def read (lookahead : Lookahead) : Reading :=
  match lookahead.pending with
  | some (.ok token) =>
    let step := lookahead.lexer.next
    ⟨.ok (some token), step.events, { lookahead with lexer := step.lexer, pending := step.item }⟩
  | some (.error error) => ⟨.error error, [], lookahead⟩
  | none => ⟨.ok none, [], lookahead⟩

/-- What the iteration leads to: an item unless it has ended, the events to be logged, and the
lookahead behind. -/
structure Iteration where
  item : Option Item
  events : List Event
  lookahead : Lookahead

/-- Gives the next item of the iteration over the tokens, which gives the error once. -/
def iterate (lookahead : Lookahead) : Iteration :=
  let reading := lookahead.read
  match reading.result with
  | .ok (some token) => ⟨some (.ok token), reading.events, reading.lookahead⟩
  | .ok none => ⟨none, reading.events, reading.lookahead⟩
  | .error error =>
    if reading.lookahead.errorGiven then ⟨none, reading.events, reading.lookahead⟩
    else
      ⟨some (.error error), reading.events, { reading.lookahead with errorGiven := true }⟩

/-- The location behind the next token, or where the lexer rests once there is none. -/
def location (lookahead : Lookahead) : Location := lookahead.lexer.location

/-- The number of tokens that were taken from the lexer and not read. -/
def held : Option Item → Nat
  | some (.ok _) => 1
  | _ => 0

/-- A bound on the tokens left to read: those that the lexer may still give, and the one taken from
it. -/
def allowance (lookahead : Lookahead) : Nat :=
  lookahead.lexer.allowance + held lookahead.pending

/-- Below the limit, a token is taken off what the lexer may still give. -/
theorem allowance_settle_add_held_le {lexer : Lexer}
    (h : lexer.metrics.tokens < Limits.tokenCount) (item : Item) :
    (lexer.settle item).lexer.allowance + held (some item) ≤ lexer.allowance := by
  cases item with
  | error error => exact Nat.le_refl _
  | ok token =>
    simp only [Lexer.settle, Lexer.produce, Lexer.allowance, Metrics.tokens_countToken, held]
    omega

/-- Taking a token from a lexer adds nothing to what is left to read. -/
theorem allowance_next_add_held_le (lexer : Lexer) :
    lexer.next.lexer.allowance + held lexer.next.item ≤ lexer.allowance := by
  cases hfinished : lexer.finished with
  | true => simp [Lexer.next, hfinished, held]
  | false =>
    cases hrest : lexer.skipBlank.cursor.rest with
    | nil => simp [Lexer.next, hfinished, hrest, Lexer.finish, Lexer.allowance, held]
    | cons first rest =>
      by_cases hlimit : Limits.tokenCount ≤ lexer.metrics.tokens
      · simp [Lexer.next, hfinished, hrest, hlimit, Lexer.refuse, Lexer.fail, Lexer.allowance,
          Metrics.countError, held]
      · obtain ⟨behind, item, hlex, hmetrics⟩ := lexer.skipBlank.lex_eq_settle first rest
        rw [Lexer.metrics_skipBlank] at hmetrics
        have h := allowance_settle_add_held_le (by rw [hmetrics]; omega) item
        simpa [Lexer.next, hfinished, hrest, hlimit, hlex, Lexer.allowance, hmetrics] using h

/-- Reading a token leaves less to read. -/
theorem allowance_read_lt {lookahead : Lookahead} {token : Token}
    (h : lookahead.pending = some (.ok token)) :
    lookahead.read.lookahead.allowance < lookahead.allowance := by
  have hle := allowance_next_add_held_le lookahead.lexer
  have hheld : held lookahead.pending = 1 := by rw [h]; rfl
  simp only [read, h, allowance] at hheld ⊢
  omega

end Lookahead

end VinylSyntax
