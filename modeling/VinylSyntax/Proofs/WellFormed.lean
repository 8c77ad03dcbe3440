import VinylSyntax.Proofs.Lexemes
import VinylSyntax.Proofs.Numerals.Float

/-!
# Well-formed tokens

The texts that a kind of token admits (`TokenKind.Admits`) are stated by the kind, without regard to
how lexemes are cut off. No text is admitted by two kinds, although comments are made of any text:
two characters tell which sort of lexeme a text can be, and then there is one way to read it
(`TokenKind.Admits.unique`). A lexer gives well-formed tokens only, so their texts tell the tokens
apart: see `tokens_told_by_text`.
-/

namespace VinylSyntax

/-- The texts of well-formed tokens of a kind. -/
inductive TokenKind.Admits : TokenKind → List Char → Prop where
  | integer {literal : IntegerLiteral} {text : List Char}
      (hread : IntegerLiteral.ofChars? text = some literal)
      (hdigit : text.head?.any isDigit = true) : Admits (.integer literal) text
  | float {literal : FloatLiteral} {text : List Char}
      (hread : FloatLiteral.ofChars? text = some literal)
      (hdigit : text.head?.any isDigit = true) : Admits (.float literal) text
  | identifier {text : List Char} (hbegins : text.head?.any beginsWord = true)
      (hword : ∀ char ∈ text, isWordChar char = true)
      (hkeyword : ∀ keyword : Keyword, text ≠ keyword.spelling.toList)
      (hlength : text.length ≤ Limits.identifierLength) : Admits .identifier text
  | keyword (keyword : Keyword) : Admits (.keyword keyword) keyword.spelling.toList
  | symbol (symbol : Symbol) : Admits (.symbol symbol) symbol.spelling.toList
  | line {inner : List Char} (hinner : '\n' ∉ inner)
      (hlength : ('/' :: '/' :: inner).length ≤ Limits.commentLength) :
      Admits .comment ('/' :: '/' :: inner)
  | block {text : List Char} (hopens : ['/', '*'] <+: text) (hcloses : Closes text)
      (hlength : text.length ≤ Limits.commentLength) : Admits .comment text

/-! ## What a text tells -/

namespace Lexeme

/-- The lexeme that all of a text could be, told by its first two characters. -/
def ofText (text : List Char) : Lexeme :=
  if text.head?.any isDigit then .number text
  else if text.head?.any beginsWord then .word text
  else if ['/', '/'] <+: text ∨ ['/', '*'] <+: text then .comment text
  else .symbol text

/-- A text that begins with a digit is that of a number. -/
theorem ofText_number {text : List Char} (h : text.head?.any isDigit = true) :
    ofText text = .number text := if_pos h

/-- A text that begins as a word does is that of a word. -/
theorem ofText_word {text : List Char} (h : text.head?.any beginsWord = true) :
    ofText text = .word text := by
  cases text with
  | nil => cases h
  | cons first rest =>
    have hdigit := isDigit_of_beginsWord h
    simp_all [ofText]

/-- A text that begins as a comment does is that of a comment. -/
theorem ofText_comment {text : List Char} (h : ['/', '/'] <+: text ∨ ['/', '*'] <+: text) :
    ofText text = .comment text := by
  have hhead : text.head? = some '/' := by
    rcases h with ⟨rest, rfl⟩ | ⟨rest, rfl⟩ <;> rfl
  rw [ofText, hhead]
  simp only [h, if_true]
  rfl

/-- A comment that is not too long makes a token. -/
theorem kind?_comment_eq_some_iff {text : List Char} {kind : TokenKind} :
    (comment text).kind? = some kind ↔ text.length ≤ Limits.commentLength ∧ kind = .comment := by
  simp only [kind?]
  split
  · next hlong => simp [Nat.not_le.2 hlong]
  · next hlength => simp [Nat.not_lt.1 hlength, eq_comm]

end Lexeme

namespace TokenKind

variable {kind other : TokenKind} {text : List Char}

/-- A text that a kind admits tells the kind. -/
theorem Admits.kind?_ofText (h : kind.Admits text) : (Lexeme.ofText text).kind? = some kind := by
  cases h with
  | integer hread hdigit =>
    rw [Lexeme.ofText_number hdigit]
    simp [Lexeme.kind?, Lexeme.text, FloatLiteral.ofString?, IntegerLiteral.ofString?, hread,
      IntegerLiteral.float_eq_none hread]
  | float hread hdigit =>
    rw [Lexeme.ofText_number hdigit]
    simp [Lexeme.kind?, Lexeme.text, FloatLiteral.ofString?, hread]
  | identifier hbegins hword hkeyword hlength =>
    rw [Lexeme.ofText_word hbegins, Lexeme.kind?_eq_identifier_iff]
    refine ⟨text, rfl, ?_, hlength, ?_⟩
    · rw [Option.eq_none_iff_forall_not_mem]
      intro keyword hmem
      have hspelling := Keyword.ofString?_eq_some_iff.1 hmem
      exact hkeyword keyword (by rw [← hspelling, String.toList_ofList])
    · cases text with
      | nil => cases hbegins
      | cons first rest =>
        have hdigit := isDigit_of_beginsWord hbegins
        simpa [Token.hasIdentifierForm, hdigit] using hword
  | keyword keyword => cases keyword <;> decide +kernel
  | symbol symbol => cases symbol <;> decide +kernel
  | @line inner hinner hlength =>
    have hopens : ['/', '/'] <+: '/' :: '/' :: inner := ⟨inner, rfl⟩
    rw [Lexeme.ofText_comment (.inl hopens)]
    exact Lexeme.kind?_comment_eq_some_iff.2 ⟨hlength, rfl⟩
  | block hopens hcloses hlength =>
    rw [Lexeme.ofText_comment (.inr hopens)]
    exact Lexeme.kind?_comment_eq_some_iff.2 ⟨hlength, rfl⟩

/-- No text is admitted by two kinds. -/
theorem Admits.unique (h : kind.Admits text) (h' : other.Admits text) : kind = other :=
  Option.some.inj (h.kind?_ofText.symm.trans h'.kind?_ofText)

end TokenKind

/-! ## Tokens of a lexer -/

namespace Lexeme

variable {lexeme : Lexeme} {rest : List Char} {kind : TokenKind}

/-- A word makes a keyword if it spells one, and else an identifier. -/
theorem admits_of_word {text : List Char} (hbegins : text.head?.any beginsWord = true)
    (hkind : (word text).kind? = some kind) : kind.Admits text := by
  cases hkeyword : Keyword.ofString? (String.ofList text) with
  | some keyword =>
    obtain rfl : TokenKind.keyword keyword = kind := by
      simpa only [kind?, Lexeme.text, hkeyword, Option.some.injEq] using hkind
    have hspelling := Keyword.ofString?_eq_some_iff.1 hkeyword
    obtain rfl : text = keyword.spelling.toList := by rw [← hspelling, String.toList_ofList]
    exact .keyword keyword
  | none =>
    obtain rfl : kind = .identifier := by
      simp only [kind?, Lexeme.text, hkeyword] at hkind
      split at hkind
      · cases hkind
      · split at hkind <;> cases hkind
        rfl
    obtain ⟨_, hlexeme, -, hlength, hform⟩ := kind?_eq_identifier_iff.1 hkind
    obtain rfl := word.inj hlexeme
    refine .identifier hbegins ?_ (fun keyword hspelling => ?_) hlength
    · cases text with
      | nil => simp
      | cons first inner =>
        exact List.all_eq_true.1 (Bool.and_eq_true_iff.1 hform).2
    · have hsome := Keyword.ofString?_eq_some_iff.2
        (show String.ofList text = keyword.spelling by rw [hspelling, String.ofList_toList])
      rw [hkeyword] at hsome
      cases hsome

/-- A symbol token has the spelling of its symbol as text. -/
theorem admits_of_symbol {text : List Char} (hkind : (symbol text).kind? = some kind) :
    kind.Admits text := by
  obtain ⟨symbol, hsymbol, rfl⟩ := Option.map_eq_some_iff.1 hkind
  obtain rfl : text = symbol.spelling.toList := by
    rw [← Symbol.ofChars?_eq_some_iff.1 hsymbol, String.toList_ofList, Lexeme.text]
  exact .symbol symbol

/-- The kind of the token that a lexeme makes admits its text. -/
theorem Form.admits (h : lexeme.Form rest) (hkind : lexeme.kind? = some kind) :
    kind.Admits lexeme.text := by
  cases h with
  | number hdigit =>
    simp only [kind?, text, FloatLiteral.ofString?, IntegerLiteral.ofString?,
      String.toList_ofList] at hkind
    split at hkind
    · next literal hread =>
      cases hkind
      exact .float hread hdigit
    · obtain ⟨literal, hread, rfl⟩ := Option.map_eq_some_iff.1 hkind
      exact .integer hread hdigit
  | word hbegins hinner hrest => exact admits_of_word hbegins hkind
  | line hinner hrest =>
    obtain ⟨hlength, rfl⟩ := kind?_comment_eq_some_iff.1 hkind
    exact .line hinner hlength
  | block hopens hfirst =>
    obtain ⟨hlength, rfl⟩ := kind?_comment_eq_some_iff.1 hkind
    exact .block hopens hfirst.closes hlength
  | openBlock => cases hkind
  | pair hpair => exact admits_of_symbol hkind
  | single hdigit hword hpair => exact admits_of_symbol hkind

end Lexeme

/-- The tokens that a lexer gives are well formed. -/
theorem Lexer.admits_of_mem {lexer : Lexer} {token : Token} (h : .ok token ∈ lexer.run.items) :
    token.kind.Admits token.text.toList := by
  obtain ⟨front, first, tail, -, -, ⟨_, -, hrefused⟩ | hitem⟩ := item_cases h
  · cases hrefused
  · obtain ⟨kind, hkind, rfl⟩ := Lexeme.token_eq_ok_iff.1 hitem.symm
    rw [String.toList_ofList]
    exact (Lexeme.split_form first tail).admits hkind

/-- Every token that a lexer gives is well formed, and tokens that any two lexers give are alike if
and only if they have the same text. -/
theorem tokens_told_by_text {lexer other : Lexer} {token token' : Token}
    (h : .ok token ∈ lexer.run.items) (h' : .ok token' ∈ other.run.items) :
    token.kind.Admits token.text.toList ∧
      (token.alike token' = true ↔ token.text = token'.text) := by
  have hadmits := Lexer.admits_of_mem h
  refine ⟨hadmits, fun halike => (Token.alike_iff.1 halike).2, fun htext => ?_⟩
  have hadmits' := Lexer.admits_of_mem h'
  rw [← htext] at hadmits'
  exact Token.alike_iff.2 ⟨hadmits.unique hadmits', htext⟩

/-- The shortest comment there is has one text wherever it stands. -/
theorem tokens_told_by_text_comment :
    let token : Token := ⟨.comment, "/**/", ⟨⟨1, 2⟩, ⟨1, 6⟩⟩⟩
    let token' : Token := ⟨.comment, "/**/", ⟨⟨2, 1⟩, ⟨2, 5⟩⟩⟩
    .ok token ∈ (Lexer.ofString default "a/**/").run.items ∧
      .ok token' ∈ (Lexer.ofString default "\n/**/-").run.items ∧
      token.kind.Admits token.text.toList ∧
      (token.alike token' = true ↔ token.text = token'.text) := by
  intro token token'
  have hitems : (Lexer.ofString default "a/**/").run.items =
      [.ok ⟨.identifier, "a", ⟨⟨1, 1⟩, ⟨1, 2⟩⟩⟩, .ok token] := by
    with_unfolding_all rfl
  have hitems' : (Lexer.ofString default "\n/**/-").run.items =
      [.ok token', .ok ⟨.symbol .minus, "-", ⟨⟨2, 5⟩, ⟨2, 6⟩⟩⟩] := by
    with_unfolding_all rfl
  have hmem : .ok token ∈ (Lexer.ofString default "a/**/").run.items := by simp [hitems]
  have hmem' : .ok token' ∈ (Lexer.ofString default "\n/**/-").run.items := by simp [hitems']
  exact ⟨hmem, hmem', tokens_told_by_text hmem hmem'⟩

end VinylSyntax
