import VinylSyntax.Proofs.Acceptance
import VinylSyntax.Proofs.Alike

/-!
# White space between tokens

How tokens are spaced does not matter: if the tokens of a source are written one behind the other
with any white space between them, they are lexed to the same tokens in other places, and parsed to
the same program. Only a line comment needs a newline behind it.
-/

namespace VinylSyntax

open Grammar

/-- A comment that goes on up to the end of its line. -/
def Token.IsLineComment (token : Token) : Prop :=
  token.isComment = true ∧ ['/', '/'] <+: token.text.toList

/-- Whether a token is a line comment is decided by its kind and its first characters. -/
instance (token : Token) : Decidable token.IsLineComment := inferInstanceAs (Decidable (_ ∧ _))

/-- A text consists of the texts of tokens, each with white space behind it. Only behind the last
one there may be none; behind a line comment it begins with a newline. -/
inductive Spaced : List Token → List Char → Prop where
  | nil : Spaced [] []
  | cons {token : Token} {tokens : List Token} {gap text : List Char}
      (hblank : ∀ char ∈ gap, isBlank char = true) (hlast : gap = [] → tokens = [])
      (hline : token.IsLineComment → gap = [] ∨ gap.head? = some '\n')
      (hrest : Spaced tokens text) :
      Spaced (token :: tokens) (token.text.toList ++ (gap ++ text))

namespace Lexer

/-- What may stand behind a token can take the place of whatever stood there. -/
theorem border_of_gap {tokens : List Token} {gap text : List Char} (rest : List Char)
    (hblank : ∀ char ∈ gap, isBlank char = true) (hlast : gap = [] → tokens = [])
    (hspaced : Spaced tokens text) : Border rest (gap ++ text) := by
  cases gap with
  | nil =>
    rw [hlast rfl] at hspaced
    cases hspaced
    exact .empty
  | cons char gap => exact .blank (hblank char (by simp))

/-- A token that a lexer gives is also given by every lexer that has its text in front of it, with
white space before and behind. -/
theorem next_of_spaced {lexer other : Lexer} {token : Token} {tokens : List Token}
    {lead gap text : List Char} (hfinished : lexer.finished = false)
    (hitem : lexer.next.item = some (.ok token)) (hother : other.finished = false)
    (hcount : other.metrics.tokens ≤ lexer.metrics.tokens)
    (hlead : ∀ char ∈ lead, isBlank char = true)
    (hrest : other.cursor.rest = lead ++ (token.text.toList ++ (gap ++ text)))
    (hblank : ∀ char ∈ gap, isBlank char = true) (hlast : gap = [] → tokens = [])
    (hline : token.IsLineComment → gap = [] ∨ gap.head? = some '\n')
    (hspaced : Spaced tokens text) :
    ∃ token', other.next.item = some (.ok token') ∧ token'.unplaced = token.unplaced ∧
      other.next.lexer.finished = false ∧ other.next.lexer.cursor.rest = gap ++ text := by
  obtain ⟨_, first, tail, hlexes⟩ := lexes_of_token hfinished hitem
  have hmade := hlexes.made_of hitem
  have htext := hlexes.text_eq hitem
  rw [htext] at hrest
  have hline' : ∀ chars, (Lexeme.split first tail).1 = .comment chars → ['/', '/'] <+: chars →
      gap ++ text = [] ∨ (gap ++ text).head? = some '\n' := by
    intro chars hlexeme hslashes
    rw [hlexeme] at htext
    have hcomment := (Lexeme.isComment_iff hmade).2 ⟨chars, hlexeme⟩
    rcases hline ⟨hcomment, htext ▸ hslashes⟩ with rfl | hnewline
    · rw [hlast rfl] at hspaced
      cases hspaced
      exact .inl rfl
    · cases gap with
      | nil => cases hnewline
      | cons char gap => exact .inr hnewline
  obtain ⟨tail', hlexes', hsplit⟩ := hlexes.replace (Lexeme.closed_of_token hmade) hother
    (Nat.lt_of_le_of_lt hcount hlexes.tokens_lt) hlead hrest (border_of_gap _ hblank hlast hspaced)
    hline'
  have hitem' := hlexes'.item_eq
  have hnext := hlexes'.rest_next
  rw [hsplit] at hitem' hnext
  rw [Lexeme.token_of_token _ hmade] at hitem'
  exact ⟨_, hitem', rfl, hlexes'.finished_next, hnext⟩

/-- Tokens that are spaced in any way are lexed to the same tokens in other places. -/
theorem takeTokens_of_spaced {lexer other : Lexer} {tokens : List Token} {lead text : List Char}
    (hfinished : lexer.finished = false) (hresult : lexer.takeTokens.result = .ok tokens)
    (hother : other.finished = false) (hcount : other.metrics.tokens ≤ lexer.metrics.tokens)
    (hlead : ∀ char ∈ lead, isBlank char = true) (hrest : other.cursor.rest = lead ++ text)
    (hspaced : Spaced tokens text) :
    ∃ others, other.takeTokens.result = .ok others ∧ Alike others tokens := by
  induction hspaced generalizing lexer other lead with
  | nil =>
    rw [List.append_nil] at hrest
    have hnone := (item_eq_none_iff hother).2 (hrest ▸ hlead)
    exact ⟨[], takeTokens_of_none hnone, rfl⟩
  | cons hblank hlast hline hrest' ih =>
    obtain ⟨-, hnone⟩ | ⟨token, tokens, hitem, hresult', heq⟩ := takeTokens_inv hresult
    · cases hnone
    · obtain ⟨rfl, rfl⟩ := List.cons.inj heq
      obtain ⟨token', hitem', hunplaced, hother', hnext⟩ :=
        next_of_spaced hfinished hitem hother hcount hlead hrest hblank hlast hline hrest'
      obtain ⟨_, _, _, hlexes⟩ := lexes_of_token hfinished hitem
      have hcount' : other.next.lexer.metrics.tokens ≤ lexer.next.lexer.metrics.tokens := by
        rw [tokens_next_of_token hitem, tokens_next_of_token hitem']
        exact Nat.succ_le_succ hcount
      -- The white space behind this token is in front of the next one.
      obtain ⟨others, hothers, halike⟩ :=
        ih hlexes.finished_next hresult' hother' hcount' hblank hnext
      refine ⟨token' :: others, ?_, alike_cons_iff.2 ⟨_, _, rfl, hunplaced, halike⟩⟩
      rw [takeTokens_of_token hitem', hothers]
      rfl

end Lexer

/-- A source with the tokens of a program is parsed to the same program in other places. -/
theorem parseSource_of_alike {preferences : Preferences} {source other : String}
    {tokens others : List Token} {parts : List TopLevel}
    (htokens : tokenize preferences.lexical source = .ok tokens)
    (hothers : tokenize preferences.lexical other = .ok others) (halike : Alike others tokens)
    (hresult : (parseSource preferences source).result = .ok parts) :
    ∃ parts', (parseSource preferences other).result = .ok parts' ∧
      parts'.map TopLevel.unplaced = parts.map TopLevel.unplaced := by
  obtain ⟨_, hahead⟩ := ahead_of_tokenize htokens
  obtain ⟨_, hahead'⟩ := ahead_of_tokenize hothers
  have hspec := parseSource_spec preferences source
  rw [hresult, hahead] at hspec
  obtain ⟨-, ⟨hprogram, hlimits⟩, -⟩ := hspec
  obtain ⟨parts', hprogram', hunplaced⟩ := hprogram.alike halike.filter_isComment
  have hlimits' : TopLevel.WithinLimits parts' := by
    rw [← TopLevel.withinLimits_unplaced, hunplaced, TopLevel.withinLimits_unplaced]
    exact hlimits
  exact ⟨parts', parseSource_of_limited hahead' hprogram' hlimits', hunplaced⟩

/-- The program that a result gives, without places, if there is one. -/
def unplacedProgram? (result : Except SyntaxError (List TopLevel)) : Option (List TopLevel) :=
  result.toOption.map (List.map TopLevel.unplaced)

/-- White space does not matter: however the tokens of a source are spaced, they are lexed to the
same tokens in other places, and are parsed to the same program, or to none. -/
theorem parseSource_spaced (preferences : Preferences) {source : String} {tokens : List Token}
    {lead text : List Char} (htokens : tokenize preferences.lexical source = .ok tokens)
    (hlead : ∀ char ∈ lead, isBlank char = true) (hspaced : Spaced tokens text) :
    (∃ others, tokenize preferences.lexical (String.ofList (lead ++ text)) = .ok others ∧
      others.map Token.unplaced = tokens.map Token.unplaced) ∧
    unplacedProgram? (parseSource preferences (String.ofList (lead ++ text))).result =
      unplacedProgram? (parseSource preferences source).result := by
  have hrest : (Lexer.ofString preferences.lexical (String.ofList (lead ++ text))).cursor.rest =
      lead ++ text :=
    String.toList_ofList
  obtain ⟨others, hothers, halike⟩ : ∃ others,
      tokenize preferences.lexical (String.ofList (lead ++ text)) = .ok others ∧
        Alike others tokens :=
    Lexer.takeTokens_of_spaced rfl htokens rfl (Nat.le_refl _) hlead hrest hspaced
  refine ⟨⟨others, hothers, halike⟩, ?_⟩
  cases hresult : (parseSource preferences source).result with
  | ok parts =>
    obtain ⟨parts', hresult', hunplaced⟩ := parseSource_of_alike htokens hothers halike hresult
    rw [hresult']
    exact congrArg some hunplaced
  | error error =>
    -- A program that is found in the other text would be found in the source.
    cases hresult' : (parseSource preferences (String.ofList (lead ++ text))).result with
    | error error' => rfl
    | ok parts =>
      obtain ⟨_, hok, -⟩ := parseSource_of_alike hothers htokens halike.symm hresult'
      rw [hresult] at hok
      cases hok

/-- The tokens of a statement with a comment behind it are put on two lines, behind an empty one. -/
theorem parseSource_spaced_lines :
    ∃ tokens, tokenize default "x;//" = .ok tokens ∧ Spaced tokens "x ;\t//\n".toList ∧
      unplacedProgram? (parseSource default "\nx ;\t//\n").result =
        unplacedProgram? (parseSource default "x;//").result := by
  let tokens : List Token :=
    [⟨.identifier, "x", ⟨⟨1, 1⟩, ⟨1, 2⟩⟩⟩, ⟨.symbol .semicolon, ";", ⟨⟨1, 2⟩, ⟨1, 3⟩⟩⟩,
      ⟨.comment, "//", ⟨⟨1, 3⟩, ⟨1, 5⟩⟩⟩]
  have htokens : tokenize default "x;//" = .ok tokens := by
    with_unfolding_all rfl
  have hcomment : Spaced (tokens.drop 2) ("//".toList ++ (['\n'] ++ [])) :=
    .cons (List.forall_mem_singleton.2 (by decide)) (by decide) (by decide) .nil
  have hsemicolon : Spaced (tokens.drop 1) (";".toList ++ (['\t'] ++ "//\n".toList)) :=
    .cons (List.forall_mem_singleton.2 (by decide)) (by decide) (by decide) hcomment
  have hspaced : Spaced tokens ("x".toList ++ ([' '] ++ ";\t//\n".toList)) :=
    .cons (List.forall_mem_singleton.2 (by decide)) (by decide) (by decide) hsemicolon
  refine ⟨tokens, htokens, hspaced, ?_⟩
  exact (@parseSource_spaced default _ _ ['\n'] _ htokens
    (List.forall_mem_singleton.2 (by decide)) hspaced).2

end VinylSyntax
