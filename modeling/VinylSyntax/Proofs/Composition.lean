import VinylSyntax.Proofs.Acceptance
import VinylSyntax.Proofs.Joining
import VinylSyntax.Proofs.Leaves

/-!
# Programs behind one another

Of two sources that are programs, with a newline between them, the tokens are those of the one
followed by those of the other further down, and these are a program. No other one can be made of
them, so whatever the second program begins with, it does not go on with the last statement of the
first: see `parseSource_joined`.
-/

namespace VinylSyntax

open Grammar

/-- The part of a program a number of lines further down. -/
def TopLevel.below (lines : Nat) (part : TopLevel) : TopLevel := part.mapTokens (Token.below lines)

/-- Further down, tokens have the kinds that they have. -/
theorem keepsKind_below (lines : Nat) : KeepsKind (Token.below lines) := fun _ => rfl

/-- The tokens of a source that is parsed are all that its lexer gives; comments aside, they are a
program within the limits. -/
theorem program_of_parseSource {preferences : Preferences} {source : String}
    {parts : List TopLevel} (h : (parseSource preferences source).result = .ok parts) :
    let tokens := (Lexer.ofString preferences.lexical source).takeTokens.tokens
    (Lexer.ofString preferences.lexical source).run.items = tokens.map .ok ∧
      ProgramOf (tokens.filter (!·.isComment)) parts ∧ TopLevel.WithinLimits parts := by
  have hspec := parseSource_spec preferences source
  rw [h] at hspec
  obtain ⟨⟨location, hending⟩, hlimited, -⟩ := hspec
  exact ⟨(tokenize_eq_ok_iff _ _ _).1 (tokenize_of_finished hending), hlimited⟩

/-- The tokens of two sources without errors, with a newline between them, are those of the first
one followed by those of the second one further down, if these are no more than are allowed. -/
theorem tokenize_joined {preferences : LexicalPreferences} {first second : String}
    {tokens tokens' : List Token}
    (hfirst : (Lexer.ofString preferences first).run.items = tokens.map .ok)
    (hsecond : (Lexer.ofString preferences second).run.items = tokens'.map .ok)
    (hlimit : tokens.length + tokens'.length ≤ Limits.tokenCount) :
    tokenize preferences (first ++ "\n" ++ second) =
      .ok (tokens ++ tokens'.map (Token.below (first.toList.count '\n' + 1))) := by
  have hclosed : ∀ span, (.error (.unterminatedComment span) : Item) ∉
      (Lexer.ofString preferences first).run.items := by
    simp [hfirst]
  have hitems : (Lexer.ofString preferences first).run.items ++
      (Lexer.ofString preferences second).run.items.map
        (Item.below (first.toList.count '\n' + 1)) =
      (tokens ++ tokens'.map (Token.below (first.toList.count '\n' + 1))).map .ok := by
    rw [hfirst, hsecond, List.map_append, List.map_map, List.map_map]
    rfl
  rw [tokenize_eq_ok_iff, Lexer.items_run_ofString_joined preferences first second hclosed, hitems]
  exact Item.capped_tokens (by simpa using hlimit)

/-- If two sources are parsed, and together have no more tokens than are allowed, then the first one
followed by a newline and the second one is parsed as the parts of both, those of the second one as
many lines further down as the first one and the newline take up. -/
theorem parseSource_joined (preferences : Preferences) (first second : String)
    (parts others : List TopLevel)
    (hfirst : (parseSource preferences first).result = .ok parts)
    (hsecond : (parseSource preferences second).result = .ok others)
    (hlimit : (Lexer.ofString preferences.lexical first).takeTokens.tokens.length +
      (Lexer.ofString preferences.lexical second).takeTokens.tokens.length ≤ Limits.tokenCount) :
    (parseSource preferences (first ++ "\n" ++ second)).result =
      .ok (parts ++ others.map (TopLevel.below (first.toList.count '\n' + 1))) := by
  obtain ⟨hitems, hprogram, hwithin⟩ := program_of_parseSource hfirst
  obtain ⟨hitems', hprogram', hwithin'⟩ := program_of_parseSource hsecond
  have htokenize := tokenize_joined hitems hitems' hlimit
  obtain ⟨location, hahead⟩ := ahead_of_tokenize htokenize
  rw [List.filter_append, List.filter_map] at hahead
  exact parseSource_of_limited hahead
    (hprogram.append (hprogram'.mapTokens (keepsKind_below _)))
    (TopLevel.withinLimits_append.2 ⟨hwithin, TopLevel.withinLimits_mapTokens.2 hwithin'⟩)

/-- The name on the second line is a statement of its own, not a value of the variable. -/
theorem parseSource_joined_declaration :
    (parseSource default ("let x Int" ++ "\n" ++ "y;")).result =
      .ok [.statement (.declaration ⟨⟨⟨.identifier, "x", ⟨⟨1, 5⟩, ⟨1, 6⟩⟩⟩⟩,
          ⟨⟨.identifier, "Int", ⟨⟨1, 7⟩, ⟨1, 10⟩⟩⟩⟩, none⟩),
        .statement (.expression (.identifier ⟨⟨.identifier, "y", ⟨⟨2, 1⟩, ⟨2, 2⟩⟩⟩⟩))] := by
  have hfirst : (parseSource default "let x Int").result =
      .ok [.statement (.declaration ⟨⟨⟨.identifier, "x", ⟨⟨1, 5⟩, ⟨1, 6⟩⟩⟩⟩,
        ⟨⟨.identifier, "Int", ⟨⟨1, 7⟩, ⟨1, 10⟩⟩⟩⟩, none⟩)] := by
    with_unfolding_all rfl
  have hsecond : (parseSource default "y;").result =
      .ok [.statement (.expression (.identifier ⟨⟨.identifier, "y", ⟨⟨1, 1⟩, ⟨1, 2⟩⟩⟩⟩))] := by
    with_unfolding_all rfl
  have hlimit : (Lexer.ofString default "let x Int").takeTokens.tokens.length +
      (Lexer.ofString default "y;").takeTokens.tokens.length ≤ Limits.tokenCount := by
    decide +kernel
  exact parseSource_joined default "let x Int" "y;" _ _ hfirst hsecond hlimit

end VinylSyntax
