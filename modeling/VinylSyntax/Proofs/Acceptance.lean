import VinylSyntax.Proofs.Definitions

/-!
# What the parser accepts

The parser accepts a source if and only if the lexer does, its tokens are a program of the grammar,
and the program is within the limits; it gives the tree of the program then.
-/

namespace VinylSyntax

open Grammar

namespace Parse

/-- Behind a program there is nothing left to read. -/
theorem pending_of_program {parser behind : Parser} {parts : List TopLevel}
    (h : program parser = .ok parts behind) : behind.tokens.pending = none := by
  obtain ⟨inside, henter, -, -⟩ := enter_quiet .program parser
  have hinside : (do let parts ← collect atEnd topLevel
                     leave
                     return parts : Parse (List TopLevel)) inside = .ok parts behind :=
    (bind_ok henter).symm.trans h
  cases hcollect : collect atEnd topLevel inside with
  | error error stuck => exact absurd ((bind_error hcollect).symm.trans hinside) (by simp)
  | ok found last =>
    have hlast : (do leave; return found : Parse (List TopLevel)) last = .ok parts behind :=
      (bind_ok hcollect).symm.trans hinside
    obtain ⟨-, rfl⟩ := EStateM.Result.ok.inj hlast
    have hfirst : ∀ tokens part, topLevelRule.phrase tokens part → ∃ first rest,
        tokens = first :: rest ∧ (some first).isNone = false ∧
          topLevelRule.follow (some first) := by
      intro tokens part hphrase
      obtain ⟨first, rest, htokens, hfollow⟩ := topLevelOf_first hphrase
      exact ⟨first, rest, htokens, rfl, hfollow⟩
    obtain ⟨hready, hend⟩ := collectFrom_ends atEnd_decides topLevel_follows hfirst hcollect
    rcases hready.pending_eq with ⟨token, -, hahead⟩ | ⟨hpending, -⟩
    · simp [hahead] at hend
    · exact hpending

/-- A program is read up to the end of the text. -/
theorem program_ends {parser behind : Parser} {parts : List TopLevel}
    (h : program parser = .ok parts behind) :
    ∃ location, behind.ahead = ⟨[], .finished location⟩ :=
  ⟨_, by simp only [Parser.ahead, Lookahead.ahead, pending_of_program h]; rfl⟩

end Parse

/-- The parser that a source is read with. -/
def Parser.ofSource (preferences : Preferences) (source : String) : Parser :=
  .ofLexer preferences.syntactic (.ofString preferences.lexical source)
    [(Event.debug "Starting syntax analysis").withContext [("characters", toString source.length)]]

/-- The parser reads the one program that is all of the tokens, or fails for the right reason. -/
theorem parseSource_spec (preferences : Preferences) (source : String) :
    match (parseSource preferences source).result with
    | .ok parts =>
      (∃ location, (Lexer.ofString preferences.lexical source).ahead.ending = .finished location) ∧
        Parse.programRule.limited (Lexer.ofString preferences.lexical source).ahead.tokens parts ∧
        ∀ parts', ProgramOf (Lexer.ofString preferences.lexical source).ahead.tokens parts' →
          parts' = parts
    | .error error =>
      Parse.programRule.Rejects (Lexer.ofString preferences.lexical source).ahead error := by
  have hresult : (parseSource preferences source).result =
      ((Parser.ofSource preferences source).parse).1 := rfl
  have hahead : (Parser.ofSource preferences source).ahead =
      (Lexer.ofString preferences.lexical source).ahead :=
    Parser.ahead_ofLexer _ _ _
  have hfollows := Parse.program_follows (Parser.ofSource preferences source)
  rw [hresult, ← hahead]
  unfold Parse.FollowsAt at hfollows
  unfold Parser.parse
  cases hprogram : Parse.program (Parser.ofSource preferences source) with
  | error error stuck =>
    rw [hprogram] at hfollows
    exact hfollows
  | ok parts behind =>
    rw [hprogram] at hfollows
    obtain ⟨taken, htaken, -, hlimited, hsettles⟩ := hfollows
    -- Nothing is left behind the program, so what it took is all there was.
    obtain ⟨location, hbehind⟩ := Parse.program_ends hprogram
    have htokens : (Parser.ofSource preferences source).ahead = ⟨taken, .finished location⟩ := by
      rw [htaken, hbehind]
      simp [Ahead.behind]
    rw [htokens]
    refine ⟨⟨location, rfl⟩, hlimited, fun parts' hparts' => ?_⟩
    rw [hbehind] at hsettles
    exact (hsettles [] taken parts' [] rfl hparts' rfl rfl).2.symm

/-- Tokens that end with the text are all tokens of a source. -/
theorem tokenize_of_finished {preferences : LexicalPreferences} {source : String}
    {location : Location}
    (h : (Lexer.ofString preferences source).ahead.ending = .finished location) :
    tokenize preferences source = .ok (Lexer.ofString preferences source).takeTokens.tokens := by
  unfold tokenize Lexer.Tokens.result
  cases hfailure : (Lexer.ofString preferences source).takeTokens.failure with
  | none => rfl
  | some error => simp [Lexer.ahead, Lexer.Tokens.ending, hfailure] at h

/-- All tokens of a source, comments aside, are ahead of its lexer. -/
theorem ahead_of_tokenize {preferences : LexicalPreferences} {source : String}
    {tokens : List Token} (h : tokenize preferences source = .ok tokens) :
    ∃ location, (Lexer.ofString preferences source).ahead =
      ⟨tokens.filter (!·.isComment), .finished location⟩ := by
  unfold tokenize Lexer.Tokens.result at h
  cases hfailure : (Lexer.ofString preferences source).takeTokens.failure with
  | none =>
    rw [hfailure] at h
    obtain rfl := Except.ok.inj h
    exact ⟨_, by simp only [Lexer.ahead, Lexer.Tokens.ending, hfailure]; rfl⟩
  | some error => simp [hfailure] at h

/-- A source whose tokens are a program within the limits is not rejected. -/
theorem not_rejects_of_limited {ahead : Ahead} {location : Location} {parts : List TopLevel}
    {error : SyntaxError} (hending : ahead.ending = .finished location)
    (hlimited : Parse.programRule.limited ahead.tokens parts) :
    ¬ Parse.programRule.Rejects ahead error := by
  have hphrase := Parse.programRule.phrase_of_limited hlimited
  intro h
  cases h with
  | @token expected token before after htokens _ hrefuses =>
    exact hrefuses ahead.tokens parts [] hphrase rfl ⟨after, by simp [htokens]⟩
  | finished _ _ hrefuses => exact hrefuses ahead.tokens parts [] hphrase rfl (by simp)
  | failed hfailed _ =>
    rw [hfailed] at hending
    cases hending
  | @excess _ before after htokens _ _ _ hrefuses =>
    exact hrefuses ahead.tokens parts [] hlimited rfl ⟨after, by simp [htokens]⟩

/-- A source whose tokens are a program within the limits is accepted. -/
theorem parseSource_of_limited {preferences : Preferences} {source : String} {tokens : List Token}
    {location : Location} {parts : List TopLevel}
    (hahead : (Lexer.ofString preferences.lexical source).ahead = ⟨tokens, .finished location⟩)
    (hprogram : ProgramOf tokens parts) (hlimits : TopLevel.WithinLimits parts) :
    (parseSource preferences source).result = .ok parts := by
  have hspec := parseSource_spec preferences source
  rw [hahead] at hspec
  cases hresult : (parseSource preferences source).result with
  | ok parts' =>
    rw [hresult] at hspec
    rw [hspec.2.2 parts hprogram]
  | error error =>
    rw [hresult] at hspec
    exact absurd hspec (not_rejects_of_limited rfl ⟨hprogram, hlimits⟩)

/-- The parser accepts exactly the sources that the lexer turns into a program of the grammar that
is within the limits, and gives the tree of that program. -/
theorem parseSource_eq_ok_iff (preferences : Preferences) (source : String)
    (parts : List TopLevel) :
    (parseSource preferences source).result = .ok parts ↔
      ∃ tokens, tokenize preferences.lexical source = .ok tokens ∧
        ProgramOf (tokens.filter (!·.isComment)) parts ∧ TopLevel.WithinLimits parts := by
  constructor
  · intro hresult
    have hspec := parseSource_spec preferences source
    rw [hresult] at hspec
    obtain ⟨⟨location, hending⟩, hlimited, -⟩ := hspec
    exact ⟨_, tokenize_of_finished hending, hlimited⟩
  · intro h
    obtain ⟨tokens, htokenize, hprogram, hlimits⟩ := h
    obtain ⟨location, hahead⟩ := ahead_of_tokenize htokenize
    exact parseSource_of_limited hahead hprogram hlimits

end VinylSyntax
