import VinylSyntax.Lexer.Lookahead
import VinylSyntax.Parser.Error

/-!
# The state of parsing

A parser reads tokens through a lookahead, keeps the productions that it is in, and collects the
events to be logged. `Parse` is the type of its actions: they change the state whether they succeed
or fail. Comments are skipped wherever a token is asked for.
-/

namespace VinylSyntax

/-- A rule of the grammar, by which the place of an error is described. -/
inductive Production where
  | program
  | functionDefinition
  | argument
  | block
  | expressionStatement
  | conditional
  | variableDeclaration
deriving DecidableEq, Inhabited

/-- What a production is called. -/
def Production.label : Production → String
  | .program => "program"
  | .functionDefinition => "function definition"
  | .argument => "argument"
  | .block => "block"
  | .expressionStatement => "expression statement"
  | .conditional => "if statement"
  | .variableDeclaration => "variable declaration"

/-- The state of a parser: where it reads, the productions entered and not left, innermost first,
and the events so far, latest first. -/
structure Parser where
  tokens : Lookahead
  preferences : SyntaxPreferences
  productions : List Production
  logged : List Event
deriving Inhabited

/-- An action of a parser. -/
abbrev Parse := EStateM SyntaxError Parser

namespace Parser

/-- The event of setting up a parser. -/
def openingEvent (preferences : SyntaxPreferences) : Event :=
  (Event.debug "Creating parser").withContext
    [("max_parse_depth", toString Limits.nestingDepth),
     ("trace_productions", toString preferences.traceProductions)]

/-- The parser of what a lexer gives; `earlier` events come first. -/
def ofLexer (preferences : SyntaxPreferences) (lexer : Lexer) (earlier : List Event) : Parser :=
  let (tokens, events) := Lookahead.ofLexer lexer
  let lexing := Lexer.openingEvent lexer.preferences :: events
  ⟨tokens, preferences, [], openingEvent preferences :: (lexing.reverse ++ earlier.reverse)⟩

/-- The events so far, in order. -/
def events (parser : Parser) : List Event := parser.logged.reverse

/-- The innermost production that is being parsed. -/
def production (parser : Parser) : Production := parser.productions.head?.getD .program

/-- A bound on the tokens left to read. -/
def allowance (parser : Parser) : Nat := parser.tokens.allowance

/-- The parser with a further event. -/
def log (parser : Parser) (event : Event) : Parser :=
  { parser with logged := event :: parser.logged }

/-- The parser with a further event, if productions are traced. -/
def trace (parser : Parser) (event : Event) : Parser :=
  if parser.preferences.traceProductions then parser.log event else parser

/-- The parser behind its next token. -/
def behindToken (parser : Parser) : Parser :=
  let reading := parser.tokens.read
  { parser with
    tokens := reading.lookahead, logged := reading.events.reverse ++ parser.logged }

/-- The event of entering the innermost production. -/
def enteringEvent (parser : Parser) : Event :=
  (Event.debug "Entering production").withContext
    [("production", parser.production.label), ("depth", toString parser.productions.length),
     ("location", parser.tokens.location.render)]

/-- The event of consuming a token. -/
def consumptionEvent (parser : Parser) (token : Token) : Event :=
  (Event.debug "Token consumed").withContext
    [("context", parser.production.label), ("token", token.render)]

/-- Recording an event leaves the tokens as they are. -/
@[simp] theorem tokens_log (parser : Parser) (event : Event) :
    (parser.log event).tokens = parser.tokens := rfl

/-- Tracing an event leaves the tokens as they are. -/
@[simp] theorem tokens_trace (parser : Parser) (event : Event) :
    (parser.trace event).tokens = parser.tokens := by
  unfold trace
  split <;> rfl

/-- The parser behind a token has less to read. -/
theorem allowance_behindToken_lt {parser : Parser} {token : Token}
    (h : parser.tokens.pending = some (.ok token)) :
    parser.behindToken.allowance < parser.allowance :=
  Lookahead.allowance_read_lt h

end Parser

namespace Parse

/-- Enters a production. -/
def enter (production : Production) : Parse Unit :=
  modify fun parser =>
    let inside := { parser with productions := production :: parser.productions }
    inside.trace inside.enteringEvent

/-- Leaves the innermost production. -/
def leave : Parse Unit :=
  modify fun parser => { parser with productions := parser.productions.tail }

/-- Runs an action and leaves a production behind it, whether the action succeeds or fails. -/
def leaving {α : Type} (action : Parse α) : Parse α := fun parser =>
  match action parser with
  | .ok value parser => .ok value { parser with productions := parser.productions.tail }
  | .error error parser => .error error { parser with productions := parser.productions.tail }

/-- The next token, comments included, without consuming it. -/
def peek : Parse (Option Token) := fun parser =>
  match parser.tokens.peek with
  | .ok token => .ok token parser
  | .error error => .error (.lexical error) parser

/-- Consumes all comments in front of the next other token. -/
def skipComments (parser : Parser) : EStateM.Result SyntaxError Parser Unit :=
  match hpending : parser.tokens.pending with
  | none => .ok () parser
  | some (.error error) => .error (.lexical error) parser
  | some (.ok token) =>
    if token.isComment then
      have := Parser.allowance_behindToken_lt hpending
      skipComments parser.behindToken
    else .ok () parser
termination_by parser.allowance

/-- Whether no token is left. -/
def atEnd : Parse Bool := do
  skipComments
  return (← peek).isNone

/-- Whether the next token is accepted. -/
def nextIs (accept : Token → Bool) : Parse Bool := do
  skipComments
  return (← peek).any accept

/-- Consumes the next token. -/
def advance : Parse Token := fun parser =>
  match parser.tokens.read.result with
  | .ok (some token) =>
    let behind := parser.behindToken
    .ok token (behind.trace (behind.consumptionEvent token))
  | .ok none => .error (.unexpectedEnd .anyToken parser.tokens.location) parser
  | .error error => .error (.lexical error) parser

/-- Fails because the next token, or the end of input, is not what was expected. -/
def unexpected {α : Type} (expected : Expectation) : Parse α := fun parser =>
  match parser.tokens.peek with
  | .ok (some token) => .error (.unexpectedToken expected token) parser
  | .ok none => .error (.unexpectedEnd expected parser.tokens.location) parser
  | .error error => .error (.lexical error) parser

/-- Consumes the next token if it is accepted. -/
def expect (accept : Token → Bool) (expected : Expectation) : Parse Token := do
  if ← nextIs accept then advance else unexpected expected

/-- Collects what an action finds, again and again until `stop` holds; `found` was found before,
latest first. An action that reads nothing would find the same for ever and is not run again. -/
def collectFrom {α : Type} (stop : Parse Bool) (action : Parse (Option α)) (found : List α)
    (parser : Parser) : EStateM.Result SyntaxError Parser (List α) :=
  match stop parser with
  | .error error parser => .error error parser
  | .ok true parser => .ok found.reverse parser
  | .ok false ready =>
    match action ready with
    | .error error parser => .error error parser
    | .ok value behind =>
      let found := value.toList ++ found
      if behind.allowance < parser.allowance then collectFrom stop action found behind
      else .ok found.reverse behind
termination_by parser.allowance

/-- Collects what an action finds, again and again until `stop` holds. -/
def collect {α : Type} (stop : Parse Bool) (action : Parse (Option α)) : Parse (List α) :=
  collectFrom stop action []

end Parse

end VinylSyntax
