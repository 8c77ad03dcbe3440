import VinylSyntax.Proofs.Lexemes

/-!
# What items say

An item says something of the text that begins where it stands: a symbol token that no longer
spelling stands there (`Symbol.LongestAt`), an error what is wrong there (`LexicalError.Describes`).
`items_borne_out` proves that the text bears out every item of a source. Errors of three kinds never
come up, since a lexeme is checked as a keyword only if it spells one, as an identifier only if it
does not, and as an integer behind every failure as a floating point number.
-/

namespace VinylSyntax

/-! ## Symbols -/

namespace Symbol

/-- The spelling of a symbol stands at the beginning of a text, and no longer one does. -/
structure LongestAt (symbol : Symbol) (text : List Char) : Prop where
  stands : symbol.spelling.toList <+: text
  longest : ∀ other : Symbol, other.spelling.toList <+: text →
    other.spelling.length ≤ symbol.spelling.length

/-- A spelling has one or two characters. -/
theorem spelling_cases (symbol : Symbol) :
    (∃ char, symbol.spelling.toList = [char]) ∨
      ∃ first second, symbol.spelling.toList = [first, second] ∧
        ofPair? first second = some symbol := by
  have hspelling := ofChars?_spelling symbol
  match htext : symbol.spelling.toList with
  | [char] => exact .inl ⟨char, rfl⟩
  | [first, second] =>
    rw [htext] at hspelling
    exact .inr ⟨first, second, rfl, hspelling⟩
  | [] | _ :: _ :: _ :: _ =>
    rw [htext] at hspelling
    cases hspelling

/-- A symbol of two characters is the longest where they stand. -/
theorem longestAt_of_ofPair? {first second : Char} {symbol : Symbol} (rest : List Char)
    (h : ofPair? first second = some symbol) : symbol.LongestAt (first :: second :: rest) := by
  have hspelling := spelling_of_ofPair? h
  refine ⟨⟨rest, by rw [hspelling]; rfl⟩, fun other _ => ?_⟩
  rw [← String.length_toList, ← String.length_toList, hspelling]
  obtain ⟨_, hother⟩ | ⟨_, _, hother, -⟩ := other.spelling_cases <;> simp [hother]

/-- A symbol of one character is the longest where it makes no pair with the next one. -/
theorem longestAt_of_ofChar? {first : Char} {rest : List Char} {symbol : Symbol}
    (h : ofChar? first = some symbol)
    (hpair : ∀ second, rest.head? = some second → ofPair? first second = none) :
    symbol.LongestAt (first :: rest) := by
  have hspelling := spelling_of_ofChar? h
  refine ⟨⟨rest, by rw [hspelling]; rfl⟩, fun other hother => ?_⟩
  rw [← String.length_toList, ← String.length_toList, hspelling]
  obtain ⟨_, hshort⟩ | ⟨_, second, hlong, hmade⟩ := other.spelling_cases
  · simp [hshort]
  · -- A longer spelling would have been cut off as a pair.
    rw [hlong] at hother
    obtain ⟨tail, htext⟩ := hother
    obtain ⟨rfl, hrest⟩ := List.cons.inj htext
    have hnone := hpair second (by rw [← hrest]; rfl)
    rw [hmade] at hnone
    cases hnone

end Symbol

/-! ## Errors -/

/-- A word stands at the beginning of a text: it is begun by a letter or `_` and goes on to the
first separator. -/
structure WordAt (word text : List Char) : Prop where
  begins : word.head?.any beginsWord = true
  joined : ∀ char ∈ word, isSeparator char = false
  ends : ∃ rest, text = word ++ rest ∧ rest.head?.all isSeparator = true

/-- What an error says of the text that begins where it stands. No text is described as a malformed
floating point number, as a malformed keyword or as a reserved identifier. -/
inductive LexicalError.Describes : LexicalError → List Char → Prop where
  | malformedSymbol {char : Char} {rest : List Char} {span : Span} (hblank : isBlank char = false)
      (hletter : isAlphabetic char = false) (hscore : char ≠ '_') (hdigit : isDigit char = false)
      (hspelling : ∀ symbol : Symbol, symbol.spelling.toList.head? ≠ some char) :
      Describes (.token ⟨.malformedSymbol, String.singleton char, span⟩) (char :: rest)
  | malformedInteger {numeral rest : List Char} {span : Span}
      (hdigit : numeral.head?.any isDigit = true)
      (hinteger : IntegerLiteral.ofChars? numeral = none)
      (hfloat : FloatLiteral.ofChars? numeral = none) :
      Describes (.token ⟨.malformedInteger, String.ofList numeral, span⟩) (numeral ++ rest)
  | malformedIdentifier {word text : List Char} {span : Span} (hword : WordAt word text)
      (hlength : word.length ≤ Limits.identifierLength)
      (hform : ∃ char ∈ word, isWordChar char = false) :
      Describes (.token ⟨.malformedIdentifier, String.ofList word, span⟩) text
  | identifierTooLong {word text : List Char} {span : Span} (hword : WordAt word text)
      (hkeyword : ∀ keyword : Keyword, word ≠ keyword.spelling.toList)
      (hlength : Limits.identifierLength < word.length) :
      Describes (.identifierTooLong word.length span) text
  | unterminatedComment {text : List Char} {span : Span} (hopens : ['/', '*'] <+: text)
      (hnone : ∀ other, other <+: text → ¬ Closes other) :
      Describes (.unterminatedComment span) text
  | commentTooLong {comment text : List Char} {span : Span}
      (hcomment : (['/', '/'] <+: text ∧ comment = text.takeWhile (· != '\n')) ∨
        (['/', '*'] <+: text ∧ ClosesFirst comment text))
      (hlength : Limits.commentLength < comment.length) :
      Describes (.commentTooLong comment.length span) text
  | tooManyTokens {first : Char} {rest : List Char} {span : Span} {count : Nat}
      (hvisible : isBlank first = false) (hlimit : Limits.tokenCount < count) :
      Describes (.tooManyTokens count span) (first :: rest)

/-- The faults that no lexeme is refused for. -/
def TokenFault.unreported : List TokenFault :=
  [.malformedFloat, .malformedKeyword, .reservedIdentifier]

/-- The errors that lexing gives are none of those that are never reported. -/
theorem LexicalError.Describes.not_mem_unreported {error : TokenError} {text : List Char}
    (h : LexicalError.Describes (.token error) text) : error.fault ∉ TokenFault.unreported := by
  cases h <;> simp [TokenFault.unreported]

/-- The text that begins where an item stands bears it out. -/
def Item.BorneOutBy (text : List Char) : Item → Prop
  | .ok token => ∀ symbol, token.kind = .symbol symbol → symbol.LongestAt text
  | .error error => error.Describes text

/-! ## Lexemes -/

namespace Lexeme

variable {lexeme : Lexeme} {rest : List Char} {span : Span} {error : LexicalError}

/-- Symbol tokens are made of lexemes that spell their symbols. -/
theorem kind?_eq_symbol_iff {symbol : Symbol} : lexeme.kind? = some (.symbol symbol) ↔
    ∃ text, lexeme = .symbol text ∧ Symbol.ofChars? text = some symbol := by
  cases lexeme with
  | number text =>
    simp only [kind?]
    split <;> simp
  | word text =>
    simp only [kind?]
    repeat' split
    all_goals simp
  | comment text => simp [kind?]
  | openComment text => simp [kind?]
  | symbol text => simp [kind?, Symbol.ofString?, Lexeme.text]

/-- What is cut off for a symbol token is the longest spelling. -/
theorem Form.longestAt {symbol : Symbol} (h : lexeme.Form rest)
    (hkind : lexeme.kind? = some (.symbol symbol)) : symbol.LongestAt (lexeme.text ++ rest) := by
  obtain ⟨text, rfl, hsymbol⟩ := kind?_eq_symbol_iff.1 hkind
  cases h with
  | pair hpair => exact Symbol.longestAt_of_ofPair? rest hsymbol
  | single hdigit hword hpair => exact Symbol.longestAt_of_ofChar? hsymbol hpair

/-- A comment is refused just if it is too long. -/
theorem token_comment_eq_error_iff {chars : List Char} : (comment chars).token span = .error error ↔
    Limits.commentLength < chars.length ∧ error = .commentTooLong chars.length span := by
  simp only [token]
  split
  · next hlong => simp [hlong, eq_comm]
  · next hlength => simp [hlength]

/-- A number is refused if neither numeral can be read. -/
theorem describes_of_number {numeral : List Char} (rest : List Char)
    (hdigit : numeral.head?.any isDigit = true)
    (herror : (number numeral).token span = .error error) : error.Describes (numeral ++ rest) := by
  simp only [token, Token.float, Token.integer] at herror
  cases hfloat : FloatLiteral.ofString? (String.ofList numeral) with
  | some literal => simp [hfloat] at herror
  | none =>
    cases hinteger : IntegerLiteral.ofString? (String.ofList numeral) with
    | some literal => simp [hfloat, hinteger] at herror
    | none =>
      obtain rfl : _ = error := by simpa [hfloat, hinteger] using herror
      rw [FloatLiteral.ofString?, String.toList_ofList] at hfloat
      rw [IntegerLiteral.ofString?, String.toList_ofList] at hinteger
      exact .malformedInteger hdigit hinteger hfloat

/-- A word is refused for its length before its characters are looked at, and is no keyword. -/
theorem describes_of_word {chars text : List Char} (hword : WordAt chars text)
    (herror : (word chars).token span = .error error) : error.Describes text := by
  simp only [token, Token.keyword, Token.identifier] at herror
  cases hkeyword : Keyword.ofString? (String.ofList chars) with
  | some keyword => simp [hkeyword] at herror
  | none =>
    by_cases hlong : Limits.identifierLength < chars.length
    · obtain rfl : _ = error := by simpa [hkeyword, hlong] using herror
      refine .identifierTooLong hword (fun keyword hspelling => ?_) hlong
      rw [Keyword.ofString?_eq_some_iff.2 (by rw [hspelling, String.ofList_toList])] at hkeyword
      cases hkeyword
    · cases hform : Token.hasIdentifierForm chars with
      | true => simp [hkeyword, hlong, hform] at herror
      | false =>
        obtain rfl : _ = error := by simpa [hkeyword, hlong, hform] using herror
        refine .malformedIdentifier hword (Nat.not_lt.1 hlong) ?_
        cases chars with
        | nil => exact absurd hword.begins Bool.false_ne_true
        | cons first inner =>
          have hfirst := isDigit_of_beginsWord hword.begins
          have hall : (first :: inner).all isWordChar = false := by
            simpa only [Token.hasIdentifierForm, hfirst, Bool.not_false, Bool.true_and] using hform
          obtain ⟨char, hchar, hother⟩ := List.all_eq_false.1 hall
          exact ⟨char, hchar, Bool.not_eq_true _ ▸ hother⟩

/-- The text bears out the error that a lexeme makes. -/
theorem Form.describes (h : lexeme.Form rest)
    (hvisible : ∀ char, lexeme.text.head? = some char → isBlank char = false)
    (herror : lexeme.token span = .error error) : error.Describes (lexeme.text ++ rest) := by
  cases h with
  | number hdigit => exact describes_of_number rest hdigit herror
  | @word first inner rest hbegins hinner hrest =>
    have hjoined : ∀ char ∈ first :: inner, isSeparator char = false :=
      List.forall_mem_cons.2 ⟨isSeparator_of_beginsWord hbegins, hinner⟩
    have hword : WordAt (first :: inner) (first :: inner ++ rest) :=
      ⟨hbegins, hjoined, rest, rfl, hrest⟩
    exact describes_of_word hword herror
  | @line inner rest hinner hrest =>
    obtain ⟨hlength, rfl⟩ := token_comment_eq_error_iff.1 herror
    refine .commentTooLong (.inl ⟨⟨inner ++ rest, rfl⟩, ?_⟩) hlength
    have hline : ∀ char ∈ '/' :: '/' :: inner, (char != '\n') = true := by
      simpa using fun char hchar => ne_of_mem_of_not_mem hchar hinner
    have hbehind : rest.takeWhile (· != '\n') = [] := by
      cases rest with
      | nil => rfl
      | cons next rest => simpa using hrest
    rw [text, List.takeWhile_append_of_pos hline, hbehind, List.append_nil]
  | block hopens hfirst =>
    obtain ⟨hlength, rfl⟩ := token_comment_eq_error_iff.1 herror
    exact .commentTooLong (.inr ⟨hopens.trans (List.prefix_append _ _), hfirst⟩) hlength
  | openBlock hopens hnone =>
    cases herror
    rw [List.append_nil]
    exact .unterminatedComment hopens hnone
  | @pair first second _ symbol hpair =>
    have hmade : Symbol.ofChars? [first, second] = some symbol := hpair
    simp [token, Token.symbol, Symbol.ofString?, hmade] at herror
  | @single first _ hdigit hword hpair =>
    simp only [token, Token.symbol, Symbol.ofString?, String.toList_ofList] at herror
    cases hsymbol : Symbol.ofChars? [first] with
    | some symbol => simp [hsymbol] at herror
    | none =>
      obtain rfl : _ = error := by simpa [hsymbol] using herror
      obtain ⟨hletter, hscore⟩ : isAlphabetic first = false ∧ first ≠ '_' := by
        simpa [beginsWord] using hword
      refine .malformedSymbol (hvisible first rfl) hletter hscore hdigit fun symbol hspelling => ?_
      have hbegins := Symbol.begins_iff.2 ⟨symbol, hspelling⟩
      rw [Symbol.begins, show Symbol.ofChar? first = none from hsymbol] at hbegins
      cases hbegins

/-- The text bears out the item that a lexeme makes. -/
theorem Form.borneOut (h : lexeme.Form rest)
    (hvisible : ∀ char, lexeme.text.head? = some char → isBlank char = false) (span : Span) :
    Item.BorneOutBy (lexeme.text ++ rest) (lexeme.token span) := by
  cases hmade : lexeme.token span with
  | ok token =>
    obtain ⟨kind, hkind, rfl⟩ := token_eq_ok_iff.1 hmade
    rintro symbol rfl
    exact h.longestAt hkind
  | error error => exact h.describes hvisible hmade

end Lexeme

/-- Every item of a source is borne out by the text that begins where the item stands, and none
reports a malformed floating point number, a malformed keyword or a reserved identifier. -/
theorem items_borne_out (preferences : LexicalPreferences) (source : String) {item : Item}
    (h : item ∈ (Lexer.ofString preferences source).run.items) :
    (∃ front text, source.toList = front ++ text ∧
      (Item.span item).start = Location.start.advanceOver front ∧ item.BorneOutBy text) ∧
    ∀ error, item = .error (.token error) → error.fault ∉ TokenFault.unreported := by
  obtain ⟨front, text, hsource, hstart, hborne⟩ : ∃ front text, source.toList = front ++ text ∧
      (Item.span item).start = Location.start.advanceOver front ∧ item.BorneOutBy text := by
    obtain ⟨front, first, tail, hsource, hvisible, ⟨count, hlimit, rfl⟩ | rfl⟩ :=
      Lexer.item_cases h
    · exact ⟨front, first :: tail, hsource, rfl, .tooManyTokens hvisible hlimit⟩
    · refine ⟨front, first :: tail, hsource, ?_, ?_⟩
      · rw [(Lexeme.token_accounts _ _ _ fun _ => Lexeme.split_openComment).2]
        rfl
      · rw [← Lexeme.text_append_rest first tail]
        refine (Lexeme.split_form first tail).borneOut (fun char hchar => ?_) _
        rw [Lexeme.head?_text] at hchar
        exact Option.some.inj hchar ▸ hvisible
  refine ⟨⟨front, text, hsource, hstart, hborne⟩, ?_⟩
  rintro error rfl
  exact LexicalError.Describes.not_mem_unreported hborne

/-- A sign does not take part of the arrow behind it, and a word is refused as a whole for one
character in it. -/
theorem items_borne_out_sign :
    let lexer := Lexer.ofString default "-->a@b"
    let arrow : Item := .ok ⟨.symbol .arrow, "->", ⟨⟨1, 2⟩, ⟨1, 4⟩⟩⟩
    let refused : Item := .error (.token ⟨.malformedIdentifier, "a@b", ⟨⟨1, 4⟩, ⟨1, 7⟩⟩⟩)
    arrow ∈ lexer.run.items ∧ refused ∈ lexer.run.items ∧
      (∃ front text, "-->a@b".toList = front ++ text ∧
        (Item.span arrow).start = Location.start.advanceOver front ∧ arrow.BorneOutBy text) ∧
      (∃ front text, "-->a@b".toList = front ++ text ∧
        (Item.span refused).start = Location.start.advanceOver front ∧ refused.BorneOutBy text) ∧
      TokenFault.malformedIdentifier ∉ TokenFault.unreported := by
  intro lexer arrow refused
  have hitems : lexer.run.items =
      [.ok ⟨.symbol .minus, "-", ⟨⟨1, 1⟩, ⟨1, 2⟩⟩⟩, arrow, refused] := by
    with_unfolding_all rfl
  have harrow : arrow ∈ lexer.run.items := by simp [hitems]
  have hrefused : refused ∈ lexer.run.items := by simp [hitems]
  exact ⟨harrow, hrefused, (items_borne_out default "-->a@b" harrow).1,
    (items_borne_out default "-->a@b" hrefused).1,
    (items_borne_out default "-->a@b" hrefused).2 _ rfl⟩

end VinylSyntax
