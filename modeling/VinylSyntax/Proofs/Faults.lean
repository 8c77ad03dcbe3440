import VinylSyntax.Proofs.Acceptance
import VinylSyntax.Proofs.Scanning

/-!
# What errors say

An error of the parser tells the leftmost fault of a source. `LeftmostFault` says for every error
what it claims about the tokens, comments aside: what stands in front of the fault can be completed
to a program, and nothing does that goes on with the fault.
-/

namespace VinylSyntax

open Grammar

/-- What an error claims about the tokens of a source that come before the first failure of the
lexer. -/
def LeftmostFault (source : String) (tokens : List Token) (failure : Option LexicalError) :
    SyntaxError → Prop
  | .unexpectedToken _ token =>
    ∃ before after, tokens = before ++ token :: after ∧ Viable before ∧ ¬ Viable (before ++ [token])
  | .unexpectedEnd _ location =>
    failure = none ∧ Viable tokens ∧ (¬ ∃ parts, ProgramOf tokens parts) ∧
      location = Location.start.advanceOver source.toList
  | .lexical error => failure = some error ∧ Viable tokens
  | .nestingTooDeep depth location =>
    depth = Limits.nestingDepth + 1 ∧ ∃ before token after shallow,
      tokens = before ++ token :: after ∧ token.kind = .keyword .ifWord ∧
      location = token.span.start ∧ Viable (before ++ [token]) ∧
      shallow.length = before.countP (Token.isKeyword .ifWord) ∧
      (∀ depth ∈ shallow, depth < Limits.nestingDepth) ∧
      ∀ rest parts, ProgramOf (before ++ token :: rest) parts →
        ∃ deeper, TopLevel.depthsIn parts = shallow ++ Limits.nestingDepth :: deeper
  | .tooManyArguments function count limit location =>
    count = Limits.argumentCount + 1 ∧ limit = Limits.argumentCount ∧
      ∃ before earlier word name opening list arguments after,
        tokens = before ++ word :: name :: opening :: (list ++ after) ∧
        ProgramOf before earlier ∧ TopLevel.WithinLimits earlier ∧
        word.kind = .keyword .defWord ∧ name.kind = .identifier ∧
        opening.kind = .symbol .parenOpen ∧ ArgumentListOf list arguments ∧
        arguments.length = count ∧ function = name.text ∧ location = name.span.start ∧
        Viable (before ++ word :: name :: opening :: list)

/-- The first `if` that lies in as many conditionals as are allowed is nested too deep, whatever
follows it. -/
theorem leftmostFault_of_overnested {source : String} {tokens before after : List Token}
    {failure : Option LexicalError} {error : SyntaxError} (htokens : tokens = before ++ after)
    (hviable : Viable before) (h : Overnested (nesting [] false) before error) :
    LeftmostFault source tokens failure error := by
  obtain ⟨front, token, shallow, rfl, hkind, rfl, hnesting, hshallow⟩ := h
  refine ⟨rfl, front, token, after, shallow, by simpa using htokens, hkind, rfl, hviable, ?_,
    hshallow, ?_⟩
  · have hlength := length_nesting [] false (front ++ [token])
    rw [hnesting] at hlength
    simpa [Token.isKeyword, hkind] using hlength
  · intro rest parts hparts
    -- The depths up to the `if` are known from the tokens up to it.
    obtain ⟨braces, branch, happend⟩ := nesting_append [] false (front ++ [token])
    have hsplit : front ++ token :: rest = (front ++ [token]) ++ rest := by simp
    refine ⟨nesting braces branch rest, ?_⟩
    rw [hparts.depthsIn_eq, hsplit, happend, hnesting, List.append_assoc, List.singleton_append]

/-- An error tells the leftmost fault: a failing parse points at the first token that no program has
at its place, at the end of a text that is only a beginning, at the first failure of the lexer, or
at the first conditional or function that breaks a limit. -/
theorem parseSource_error_leftmost (preferences : Preferences) (source : String)
    (error : SyntaxError) (h : (parseSource preferences source).result = .error error) :
    LeftmostFault source
      ((Lexer.ofString preferences.lexical source).takeTokens.tokens.filter (!·.isComment))
      (Lexer.ofString preferences.lexical source).takeTokens.failure error := by
  have hspec := parseSource_spec preferences source
  rw [h] at hspec
  cases hspec with
  | @token expected token before after htokens hviable hrefuses =>
    refine ⟨before, after, htokens, hviable, ?_⟩
    intro ⟨rest, parts, hparts⟩
    exact hrefuses _ parts [] hparts rfl ⟨rest, by simp⟩
  | @finished expected location hending hviable hrefuses =>
    have hlocation := Lexer.location_of_finished rfl hending
    refine ⟨?_, hviable, ?_, hlocation⟩
    · unfold Lexer.ahead Lexer.Tokens.ending at hending
      split at hending
      · assumption
      · cases hending
    · intro ⟨parts, hparts⟩
      exact hrefuses _ parts [] hparts rfl (by simp; rfl)
  | @failed error hending hviable =>
    refine ⟨?_, hviable⟩
    unfold Lexer.ahead Lexer.Tokens.ending at hending
    split at hending
    · cases hending
    · next hfailure =>
      rw [hfailure]
      exact congrArg some (Ending.failed.inj hending)
  | @excess _ before after htokens hnonempty hviable hexcess _ =>
    obtain ⟨front, earlier, back, rfl, hearlier, hlimits, hback⟩ := hexcess
    -- The parts in front are a program within the limits, so the fault is in the part behind.
    rcases hback with hback | hback
    · have hover := hback.behind (hearlier.nesting_append back) fun depth hdepth =>
        hlimits.1 depth hdepth
      exact leftmostFault_of_overnested htokens hviable hover
    · obtain ⟨word, name, opening, list, arguments, rfl, hword, hname, hopening, hlist, hlength,
        rfl⟩ := hback
      have hall : (Lexer.ofString preferences.lexical source).ahead.tokens =
          front ++ word :: name :: opening :: (list ++ after) := by
        simpa using htokens
      exact ⟨rfl, rfl, front, earlier, word, name, opening, list, arguments, after, hall, hearlier,
        hlimits, hword, hname, hopening, hlist, hlength, rfl, rfl, hviable⟩

/-- A declaration that breaks off is refused at the end of the text. -/
theorem parseSource_error_unfinished :
    (parseSource default "let x").result = .error (.unexpectedEnd .variableType ⟨1, 6⟩) ∧
      LeftmostFault "let x"
        ((Lexer.ofString default "let x").takeTokens.tokens.filter (!·.isComment))
        (Lexer.ofString default "let x").takeTokens.failure
        (.unexpectedEnd .variableType ⟨1, 6⟩) := by
  have hresult : (parseSource default "let x").result =
      .error (.unexpectedEnd .variableType ⟨1, 6⟩) := by
    with_unfolding_all rfl
  exact ⟨hresult, parseSource_error_leftmost default "let x" _ hresult⟩

end VinylSyntax
