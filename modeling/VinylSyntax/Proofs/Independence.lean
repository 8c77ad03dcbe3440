import VinylSyntax.Journal.Session
import VinylSyntax.Proofs.Acceptance
import VinylSyntax.Proofs.Stepping
import VinylSyntax.Proofs.Views

/-!
# What reading does not depend on

A source is read in a setting: the preferences about lexing and parsing, and the session in which
every call logs its events, with its variables, its preferences about logging and its service, if
there is one. Two settings see to it that lexers stand at the same places with the same counts of
tokens and errors, so that they give the same items; and parsers that see the same items have the
same outcomes in the same productions. So a setting shows in the events and in the counts by kind
only: see `settings_agree`.
-/

namespace VinylSyntax

/-! ## Lexers -/

/-- Two lexers differ in nothing but their preferences and the counts by kind. -/
structure Lexer.Agrees (lexer other : Lexer) : Prop where
  cursor_eq : lexer.cursor = other.cursor
  finished_eq : lexer.finished = other.finished
  tokens_eq : lexer.metrics.tokens = other.metrics.tokens
  errors_eq : lexer.metrics.errors = other.metrics.errors

namespace Lexer

variable {lexer other : Lexer}

/-- Lexers that agree do so behind white space. -/
theorem Agrees.skipBlank (h : lexer.Agrees other) : lexer.skipBlank.Agrees other.skipBlank :=
  { h with cursor_eq := by rw [cursor_skipBlank, cursor_skipBlank, h.cursor_eq] }

/-- Lexers that agree do so when both are settled with an item. -/
theorem Agrees.settle (h : lexer.Agrees other) (item : Item) :
    (lexer.settle item).lexer.Agrees (other.settle item).lexer := by
  cases item with
  | ok token =>
    refine ⟨h.cursor_eq, h.finished_eq, ?_, ?_⟩
    · simp [Lexer.settle, produce, h.tokens_eq]
    · simp [Lexer.settle, produce, h.errors_eq]
  | error error => exact ⟨h.cursor_eq, h.finished_eq, h.tokens_eq, congrArg (· + 1) h.errors_eq⟩

/-- Lexers that agree refuse a further token in the same way. -/
theorem Agrees.refuse (h : lexer.Agrees other) :
    lexer.refuse.item = other.refuse.item ∧ lexer.refuse.lexer.Agrees other.refuse.lexer := by
  refine ⟨?_, h.cursor_eq, rfl, h.tokens_eq, congrArg (· + 1) h.errors_eq⟩
  rw [Lexer.refuse, Lexer.refuse, fail, fail, h.tokens_eq, h.cursor_eq]

/-- Lexers that agree take a lexeme in the same way. -/
theorem Agrees.lex (h : lexer.Agrees other) (first : Char) (tail : List Char) :
    (lexer.lex first tail).item = (other.lex first tail).item ∧
      (lexer.lex first tail).lexer.Agrees (other.lex first tail).lexer := by
  have hpast : ∀ lexeme rest, (lexer.past lexeme rest).Agrees (other.past lexeme rest) := by
    intro lexeme rest
    exact { h with cursor_eq := by rw [past, past, h.cursor_eq] }
  have hlocation : lexer.location = other.location := congrArg Cursor.location h.cursor_eq
  have hbehind : ∀ lexeme rest, (lexer.past lexeme rest).location =
      (other.past lexeme rest).location :=
    fun lexeme rest => congrArg Cursor.location (hpast lexeme rest).cursor_eq
  rw [Lexer.lex, Lexer.lex, hlocation, hbehind]
  exact ⟨by rw [item_settle, item_settle], (hpast _ _).settle _⟩

/-- A step gives the same item to lexers that agree, and they agree behind it. -/
theorem Agrees.next (h : lexer.Agrees other) :
    lexer.next.item = other.next.item ∧ lexer.next.lexer.Agrees other.next.lexer := by
  have hsame := h.finished_eq
  cases hfinished : lexer.finished with
  | true =>
    rw [hfinished] at hsame
    rw [next_of_finished hfinished, next_of_finished hsame.symm]
    exact ⟨rfl, h⟩
  | false =>
    rw [hfinished] at hsame
    cases hbehind : behindGap lexer.cursor.rest with
    | nil =>
      rw [next_of_blank hfinished hbehind, next_of_blank hsame.symm (h.cursor_eq ▸ hbehind)]
      exact ⟨rfl, { h.skipBlank with finished_eq := rfl }⟩
    | cons first tail =>
      rw [next_of_visible hfinished hbehind, next_of_visible hsame.symm (h.cursor_eq ▸ hbehind),
        ← h.tokens_eq]
      split
      · exact h.skipBlank.refuse
      · exact h.skipBlank.lex first tail

/-- Lexers that agree do so after any number of steps. -/
theorem Agrees.after (h : lexer.Agrees other) (count : Nat) :
    (lexer.after count).Agrees (other.after count) := by
  induction count with
  | zero => exact h
  | succ count ih => exact ih.next.2

/-- The same is ahead of lexers that agree. -/
theorem Agrees.ahead_eq (h : lexer.Agrees other) : lexer.ahead = other.ahead := by
  -- Every item leaves less to do, and none ends what is ahead.
  induction hremaining : lexer.remaining using Nat.strongRecOn generalizing lexer other with
  | ind _ ih =>
    obtain ⟨hitem, hnext⟩ := h.next
    cases hgiven : lexer.next.item with
    | none =>
      rw [ahead_of_none hgiven, ahead_of_none (hitem ▸ hgiven), location, location,
        hnext.cursor_eq]
    | some item =>
      have hlt := lexer.remaining_next_lt (by simp [hgiven])
      cases item with
      | error error => rw [ahead_of_error hgiven, ahead_of_error (hitem ▸ hgiven)]
      | ok token =>
        rw [ahead_of_token hgiven, ahead_of_token (hitem.symm.trans hgiven),
          ih _ (by omega) hnext rfl]

/-- Lexers of a source agree, whatever their preferences are. -/
theorem agrees_ofString (preferences preferences' : LexicalPreferences) (source : String) :
    (ofString preferences source).Agrees (ofString preferences' source) :=
  ⟨rfl, rfl, rfl, rfl⟩

end Lexer

/-- Preferences about lexing do not change the items of a source. -/
theorem items_run_congr (preferences preferences' : LexicalPreferences) (source : String) :
    (Lexer.ofString preferences source).run.items =
      (Lexer.ofString preferences' source).run.items := by
  refine List.ext_getElem? fun index => ?_
  rw [Lexer.getElem?_items_run, Lexer.getElem?_items_run]
  exact ((Lexer.agrees_ofString preferences preferences' source).after index).next.1

/-- Tokenizing a source does not depend on preferences. -/
theorem tokenize_congr (preferences preferences' : LexicalPreferences) (source : String) :
    tokenize preferences source = tokenize preferences' source := by
  have hitems := items_run_congr preferences preferences' source
  cases hresult : tokenize preferences' source with
  | ok tokens =>
    rw [tokenize_eq_ok_iff] at hresult ⊢
    exact hitems.trans hresult
  | error error =>
    rw [tokenize_eq_error_iff] at hresult ⊢
    rwa [hitems]

/-- Parsers see the same through lexers that agree. -/
theorem Lexer.Agrees.like_ofLexer {lexer other : Lexer} (h : lexer.Agrees other)
    (preferences preferences' : SyntaxPreferences) (events events' : List Event) :
    (Parser.ofLexer preferences lexer events).Like
      (Parser.ofLexer preferences' other events') := by
  refine ⟨?_, rfl⟩
  rw [Parser.ahead_ofLexer, Parser.ahead_ofLexer]
  exact h.ahead_eq

/-- What parsing a source results in does not depend on preferences. -/
theorem parseSource_congr (preferences preferences' : Preferences) (source : String) :
    (parseSource preferences source).result = (parseSource preferences' source).result :=
  ((Lexer.agrees_ofString _ _ source).like_ofLexer _ _ _ _).parse.1

/-! ## Settings -/

/-- What a source is read in: the preferences about lexing and parsing, and the session in which
events are logged. -/
structure Setting where
  lexical : LexicalPreferences
  syntactic : SyntaxPreferences
  session : Session

namespace Setting

/-- The lexer of a source behind a number of calls, and the session in which they were logged. -/
def lexing (setting : Setting) (source : String) : Nat → Lexer × Session
  | 0 =>
    (.ofString setting.lexical source,
      setting.session.log (Lexer.openingEvent setting.lexical))
  | calls + 1 =>
    let (lexer, session) := setting.lexing source calls
    (lexer.next.lexer, session.logAll lexer.next.events)

/-- The parser of a source before its first call. -/
def parser (setting : Setting) (source : String) : Parser :=
  .ofLexer setting.syntactic (.ofString setting.lexical source) []

/-- The outcomes of a number of calls that parse a source, the parser behind them, and the session
in which they were logged. -/
def parsing (setting : Setting) (source : String) :
    Nat → List (Except SyntaxError (List TopLevel)) × Parser × Session
  | 0 => ([], setting.parser source, setting.session.logAll (setting.parser source).events)
  | calls + 1 =>
    let (results, parser, session) := setting.parsing source calls
    let (result, behind) := parser.parse
    (results ++ [result], behind, session.logAll (behind.events.drop parser.events.length))

/-- Lexing in a setting leads to where the steps of the lexer lead. -/
theorem lexing_eq_after (setting : Setting) (source : String) (calls : Nat) :
    (setting.lexing source calls).1 = (Lexer.ofString setting.lexical source).after calls := by
  induction calls with
  | zero => rfl
  | succ calls ih => exact congrArg (·.next.lexer) ih

/-- In two settings, parsing has the same outcomes, and the parsers see the same behind it. -/
theorem parsing_agrees (a b : Setting) (source : String) (calls : Nat) :
    (a.parsing source calls).1 = (b.parsing source calls).1 ∧
      (a.parsing source calls).2.1.Like (b.parsing source calls).2.1 := by
  induction calls with
  | zero => exact ⟨rfl, (Lexer.agrees_ofString _ _ source).like_ofLexer _ _ _ _⟩
  | succ calls ih =>
    obtain ⟨hresults, hlike⟩ := ih
    obtain ⟨hresult, hbehind⟩ := hlike.parse
    refine ⟨?_, hbehind⟩
    show (a.parsing source calls).1 ++ [(a.parsing source calls).2.1.parse.1] =
      (b.parsing source calls).1 ++ [(b.parsing source calls).2.1.parse.1]
    rw [hresults, hresult]

end Setting

/-- No setting shows in what is read. Lexers of a source give the same item in every call, and stand
at the same location with the same numbers of tokens and errors; parsers of it have the same
outcomes in all calls, in the same productions; and whole sessions lex and parse it alike. -/
theorem settings_agree (a b : Setting) (source : String) :
    (∀ calls,
      let lexer := (a.lexing source calls).1
      let other := (b.lexing source calls).1
      lexer.next.item = other.next.item ∧ lexer.location = other.location ∧
        lexer.metrics.tokens = other.metrics.tokens ∧
        lexer.metrics.errors = other.metrics.errors) ∧
    (Lexer.ofString a.lexical source).run.items = (Lexer.ofString b.lexical source).run.items ∧
    (∀ calls,
      (a.parsing source calls).1 = (b.parsing source calls).1 ∧
        (a.parsing source calls).2.1.production = (b.parsing source calls).2.1.production) ∧
    (a.session.tokenize source).1 = (b.session.tokenize source).1 ∧
    (a.session.parse source).1 = (b.session.parse source).1 := by
  have hagrees : ∀ calls, ((Lexer.ofString a.lexical source).after calls).Agrees
      ((Lexer.ofString b.lexical source).after calls) :=
    (Lexer.agrees_ofString a.lexical b.lexical source).after
  refine ⟨fun calls => ?_, ?_, fun calls => ?_, ?_, ?_⟩
  · intro lexer other
    have hcalls : lexer.Agrees other := by
      simpa only [lexer, other, Setting.lexing_eq_after] using hagrees calls
    exact ⟨hcalls.next.1, congrArg Cursor.location hcalls.cursor_eq, hcalls.tokens_eq,
      hcalls.errors_eq⟩
  · exact items_run_congr _ _ source
  · obtain ⟨hresults, hlike⟩ := Setting.parsing_agrees a b source calls
    exact ⟨hresults, by rw [Parser.production, Parser.production, hlike.productions_eq]⟩
  · show tokenize _ source = tokenize _ source
    exact tokenize_congr _ _ source
  · exact parseSource_congr _ _ source

end VinylSyntax
