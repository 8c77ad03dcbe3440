import VinylSyntax.Lexer.Lexeme
import VinylSyntax.Lexer.Metrics

/-!
# The lexer

A lexer reads a text one token at a time. `Lexer.next` skips white space and turns the next lexeme
into an item, a token or an error; after an error lexing can go on behind the lexeme. The end of the
text and the token limit finish a lexer for good. Besides its item, a step gives the events to be
logged about it.

Every step that gives an item leaves less to do (`Lexer.remaining_next_lt`), so that a lexer can be
run to its end: `Lexer.run` collects all items, `Lexer.takeTokens` the tokens before the first
error.
-/

namespace VinylSyntax

/-- What a lexer gives: a token, or an error in the place of one. -/
abbrev Item := Except LexicalError Token

/-- The state of lexing a text. -/
structure Lexer where
  cursor : Cursor
  preferences : LexicalPreferences
  metrics : Metrics
  finished : Bool
deriving DecidableEq, Inhabited

namespace Lexer

/-- The lexer of what a cursor has in front of it. -/
def ofCursor (preferences : LexicalPreferences) (cursor : Cursor) : Lexer :=
  ⟨cursor, preferences, .zero, false⟩

/-- The lexer of a text. -/
def ofString (preferences : LexicalPreferences) (source : String) : Lexer :=
  ofCursor preferences (.ofString source)

/-- The event of setting up a lexer. -/
def openingEvent (preferences : LexicalPreferences) : Event :=
  (Event.debug "Starting lexical analysis").withContext
    [("max_tokens_allowed", toString Limits.tokenCount),
     ("max_identifier_length", toString Limits.identifierLength),
     ("detailed_metrics", toString preferences.detailedMetrics)]

/-- The location behind the last character consumed. -/
def location (lexer : Lexer) : Location := lexer.cursor.location

/-- The number of tokens given so far. -/
def tokenCount (lexer : Lexer) : Nat := lexer.metrics.tokens

/-- What a step of a lexer leads to: an item unless the lexer has finished, the events to be logged,
and the lexer behind the step. -/
structure Step where
  item : Option Item
  events : List Event
  lexer : Lexer

/-- The lexer behind all white space in front of it. -/
def skipBlank (lexer : Lexer) : Lexer :=
  { lexer with cursor := (lexer.cursor.readUntil fun _ char => !isBlank char).2 }

/-- The event of reaching the end of the text. -/
def completionEvent (metrics : Metrics) : Event :=
  (Event.success .lexingComplete "Lexical analysis completed").withContext
    [("total_tokens", toString metrics.tokens),
     ("identifiers", toString metrics.identifiers),
     ("keywords", toString metrics.keywords),
     ("comments", toString metrics.comments),
     ("errors", toString metrics.errors)]

/-- The event of an error. -/
def errorEvent (error : LexicalError) : Event :=
  (Event.error error.code error.message).about error.span

/-- The event of a token. -/
def tokenEvent (token : Token) : Event :=
  (Event.debug "Token produced").withContext
    [("kind", token.label), ("text", token.text), ("span", token.span.render)]

/-- The step at the end of the text. -/
def finish (lexer : Lexer) : Step :=
  ⟨none, [completionEvent lexer.metrics], { lexer with finished := true }⟩

/-- The step that gives an error, behind which the lexer is as given. -/
def fail (lexer : Lexer) (error : LexicalError) : Step :=
  ⟨some (.error error), [errorEvent error], { lexer with metrics := lexer.metrics.countError }⟩

/-- The step that gives a token, behind which the lexer is as given. -/
def produce (lexer : Lexer) (token : Token) : Step :=
  ⟨some (.ok token), if lexer.preferences.traceTokens then [tokenEvent token] else [],
    { lexer with metrics := lexer.metrics.countToken lexer.preferences token }⟩

/-- The step that gives a token or an error, behind which the lexer is as given. -/
def settle (lexer : Lexer) : Item → Step
  | .ok token => lexer.produce token
  | .error error => lexer.fail error

/-- The lexer behind a lexeme, where `rest` is left. -/
def past (lexer : Lexer) (lexeme : Lexeme) (rest : List Char) : Lexer :=
  { lexer with cursor := lexer.cursor.past lexeme.text rest }

/-- The step over the lexeme that begins with a character. -/
def lex (lexer : Lexer) (first : Char) (rest : List Char) : Step :=
  let cut := Lexeme.split first rest
  let behind := lexer.past cut.1 cut.2
  behind.settle (cut.1.token ⟨lexer.location, behind.location⟩)

/-- The step that refuses a further token. -/
def refuse (lexer : Lexer) : Step :=
  { lexer with finished := true }.fail
    (.tooManyTokens (lexer.metrics.tokens + 1) (.point lexer.cursor.location))

/-- Gives the next item. Without one, the lexer has finished. -/
def next (lexer : Lexer) : Step :=
  if lexer.finished then ⟨none, [], lexer⟩
  else
    let lexer := lexer.skipBlank
    match lexer.cursor.rest with
    | [] => lexer.finish
    | first :: rest =>
      if Limits.tokenCount ≤ lexer.metrics.tokens then lexer.refuse
      else lexer.lex first rest

/-- A bound on what is left to do: nothing once finished, else the characters left and the end. -/
def remaining (lexer : Lexer) : Nat :=
  if lexer.finished then 0 else lexer.cursor.rest.length + 1

/-- The number of tokens that a lexer may still give. -/
def allowance (lexer : Lexer) : Nat := Limits.tokenCount - lexer.metrics.tokens

/-- Skipping white space does not finish a lexer. -/
@[simp] theorem finished_skipBlank (lexer : Lexer) :
    lexer.skipBlank.finished = lexer.finished := rfl

/-- Skipping white space counts nothing. -/
@[simp] theorem metrics_skipBlank (lexer : Lexer) : lexer.skipBlank.metrics = lexer.metrics := rfl

/-- Skipping white space leaves no more text than there was. -/
theorem length_rest_skipBlank_le (lexer : Lexer) :
    lexer.skipBlank.cursor.rest.length ≤ lexer.cursor.rest.length :=
  length_splitWhere_le _ [] _

/-- Settling a step gives the item that it is settled with. -/
@[simp] theorem item_settle (lexer : Lexer) (item : Item) :
    (lexer.settle item).item = some item := by
  cases item <;> rfl

/-- Settling a step does not move the cursor. -/
@[simp] theorem cursor_settle (lexer : Lexer) (item : Item) :
    (lexer.settle item).lexer.cursor = lexer.cursor := by
  cases item <;> rfl

/-- Settling a step does not finish the lexer. -/
@[simp] theorem finished_settle (lexer : Lexer) (item : Item) :
    (lexer.settle item).lexer.finished = lexer.finished := by
  cases item <;> rfl

/-- A step over a lexeme settles an item behind it, where nothing more is counted yet. -/
theorem lex_eq_settle (lexer : Lexer) (first : Char) (rest : List Char) :
    ∃ (behind : Lexer) (item : Item),
      lexer.lex first rest = behind.settle item ∧ behind.metrics = lexer.metrics :=
  ⟨_, _, rfl, rfl⟩

/-- A step over a lexeme leaves less of the text. -/
theorem remaining_lex_lt (lexer : Lexer) (first : Char) (rest : List Char)
    (hrest : lexer.cursor.rest = first :: rest) (hfinished : lexer.finished = false) :
    (lexer.lex first rest).lexer.remaining < lexer.remaining := by
  have h := Lexeme.length_rest_le first rest
  simp only [remaining, lex, finished_settle, cursor_settle, past, Cursor.past, hfinished, hrest,
    List.length_cons, Bool.false_eq_true, if_false]
  omega

/-- A step that gives an item leaves less to do. -/
theorem remaining_next_lt (lexer : Lexer) (h : lexer.next.item.isSome = true) :
    lexer.next.lexer.remaining < lexer.remaining := by
  cases hfinished : lexer.finished with
  | true => simp [next, hfinished] at h
  | false =>
    have hskip := lexer.length_rest_skipBlank_le
    simp only [next, hfinished, Bool.false_eq_true, if_false] at h ⊢
    cases hrest : lexer.skipBlank.cursor.rest with
    | nil => simp [hrest, finish] at h
    | cons first rest =>
      by_cases hlimit : Limits.tokenCount ≤ lexer.metrics.tokens
      · simp [hlimit, refuse, fail, remaining, hfinished]
      · have hlex := lexer.skipBlank.remaining_lex_lt first rest hrest hfinished
        have hbound : lexer.skipBlank.remaining ≤ lexer.remaining := by
          simpa [remaining, hfinished] using hskip
        simpa [hlimit] using Nat.lt_of_lt_of_le hlex hbound

/-- What a lexer gives when it is run: its items, the events to be logged, and the lexer behind. -/
structure Run where
  items : List Item
  events : List Event
  lexer : Lexer

/-- Runs a lexer to its end; `items` and `events` came before, latest first. -/
def runFrom (items : List Item) (events : List Event) (lexer : Lexer) : Run :=
  let step := lexer.next
  let events := step.events.reverse ++ events
  match hitem : step.item with
  | none => ⟨items.reverse, events.reverse, step.lexer⟩
  | some item =>
    have := lexer.remaining_next_lt (Option.isSome_of_mem hitem)
    runFrom (item :: items) events step.lexer
termination_by lexer.remaining

/-- Runs a lexer to its end, going on after errors. -/
def run (lexer : Lexer) : Run := runFrom [] [] lexer

/-- What a lexer gives when it is run up to its first error: the tokens before it, the error if
there is one, the events to be logged, and the lexer behind. -/
structure Tokens where
  tokens : List Token
  failure : Option LexicalError
  events : List Event
  lexer : Lexer

/-- Takes tokens up to the first error; `tokens` and `events` came before, latest first. -/
def takeTokensFrom (tokens : List Token) (events : List Event) (lexer : Lexer) : Tokens :=
  let step := lexer.next
  let events := step.events.reverse ++ events
  match hitem : step.item with
  | none => ⟨tokens.reverse, none, events.reverse, step.lexer⟩
  | some (.error error) => ⟨tokens.reverse, some error, events.reverse, step.lexer⟩
  | some (.ok token) =>
    have := lexer.remaining_next_lt (Option.isSome_of_mem hitem)
    takeTokensFrom (token :: tokens) events step.lexer
termination_by lexer.remaining

/-- Takes tokens up to the first error. -/
def takeTokens (lexer : Lexer) : Tokens := takeTokensFrom [] [] lexer

/-- All tokens, or the first error. -/
def Tokens.result (tokens : Tokens) : Except LexicalError (List Token) :=
  match tokens.failure with
  | none => .ok tokens.tokens
  | some error => .error error

end Lexer

/-- The tokens of a source, or the first error in it. -/
def tokenize (preferences : LexicalPreferences) (source : String) :
    Except LexicalError (List Token) :=
  (Lexer.ofString preferences source).takeTokens.result

/-- The event of stating the limits of lexing. -/
def lexicalLimitsEvent : Event :=
  (Event.debug "Lexical limits initialized").withContext
    [("max_identifier_length", toString Limits.identifierLength),
     ("max_comment_length", toString Limits.commentLength),
     ("max_token_count", toString Limits.tokenCount)]

end VinylSyntax
