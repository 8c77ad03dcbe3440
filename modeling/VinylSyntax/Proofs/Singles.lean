import Mathlib.Data.List.TakeWhile
import VinylSyntax.Proofs.Stepping

/-!
# Texts of a single token

A text is lexed to one token that consists of all of it exactly if its first lexeme leaves nothing
and makes that token (`lexesTo_iff`). For identifiers there is a rule on the text itself: it makes
an identifier, and begins with a letter or `_` besides (`lexesTo_identifier_iff`). The other
characters of identifiers, such as marks and connectors, end no word but do not begin one either.
-/

namespace VinylSyntax

/-- A text is lexed to a single item, a token of a kind that consists of all of the text. -/
def LexesTo (preferences : LexicalPreferences) (text : String) (kind : TokenKind) : Prop :=
  ∃ span, (Lexer.ofString preferences text).run.items = [.ok ⟨kind, text, span⟩]

/-! ## The only lexeme -/

/-- A lexeme that leaves nothing makes the only item. -/
theorem Lexer.items_run_of_whole {preferences : LexicalPreferences} {text : String} {first : Char}
    {tail : List Char} (htext : text.toList = first :: tail) (hvisible : isBlank first = false)
    (hrest : (Lexeme.split first tail).2 = []) :
    (Lexer.ofString preferences text).run.items = [(Lexeme.split first tail).1.token
      ⟨.start, Location.start.advanceOver text.toList⟩] := by
  have hlexes : (Lexer.ofString preferences text).Lexes [] first tail :=
    lexes_of_rest rfl (show 0 < Limits.tokenCount by decide) (by simp) hvisible htext
  have hcut := Lexeme.text_append_rest first tail
  rw [hrest, List.append_nil] at hcut
  have hend : (Lexer.ofString preferences text).next.lexer.next.item = none := by
    rw [item_eq_none_iff hlexes.finished_next, hlexes.rest_next, hrest]
    simp
  rw [items_run_of_item hlexes.item_eq, items_run_of_none hend, List.nil_append, hcut, ← htext]
  rfl

/-- A text is lexed to a token of a kind if and only if all of it is a lexeme of the kind. -/
theorem lexesTo_iff {preferences : LexicalPreferences} {text : String} {kind : TokenKind}
    (hkind : kind ≠ .comment) :
    LexesTo preferences text kind ↔ ∃ first tail, text.toList = first :: tail ∧
      isBlank first = false ∧ (Lexeme.split first tail).2 = [] ∧
      (Lexeme.split first tail).1.kind? = some kind := by
  constructor
  · rintro ⟨span, hitems⟩
    have htokens := (tokenize_eq_ok_iff preferences text [⟨kind, text, span⟩]).2 hitems
    have halone : Token.LexesAlone preferences ⟨kind, text, span⟩ := ⟨span, htokens⟩
    have hcomment : Token.isComment ⟨kind, text, span⟩ = false := by
      simpa [Token.isComment] using hkind
    obtain ⟨-, hstands⟩ := Token.standalone_of_lexesAlone halone hcomment
    cases htext : text.toList with
    | nil => simp [htext, Token.StandsFor] at hstands
    | cons first tail =>
      simp only [htext, Token.StandsFor] at hstands
      obtain ⟨hvisible, hrest, htoken⟩ := hstands
      obtain ⟨found, hfound, heq⟩ := Lexeme.token_eq_ok_iff.1 htoken
      obtain ⟨rfl, -, -⟩ := Token.mk.inj heq
      exact ⟨first, tail, rfl, hvisible, hrest, hfound⟩
  · rintro ⟨first, tail, htext, hvisible, hrest, hfound⟩
    have hcut := Lexeme.text_append_rest first tail
    rw [hrest, List.append_nil, ← htext] at hcut
    refine ⟨⟨.start, Location.start.advanceOver text.toList⟩, ?_⟩
    rw [Lexer.items_run_of_whole htext hvisible hrest,
      Lexeme.token_eq_ok_iff.2 ⟨kind, hfound, rfl⟩, hcut, String.ofList_toList]

/-! ## Words -/

/-- Word characters are not white space. -/
theorem isBlank_of_isWordChar {char : Char} (h : isWordChar char = true) :
    isBlank char = false := by
  rw [isWordChar, Bool.or_eq_true, Bool.and_eq_true] at h
  rcases h with ⟨halphabetic, -⟩ | hcontinues
  · exact isBlank_of_isAlphabetic halphabetic
  · exact CharacterClass.inRanges_of_apart (by decide +kernel) hcontinues

/-- No symbol begins with a word character. -/
theorem begins_of_isWordChar {char : Char} (h : isWordChar char = true) :
    Symbol.begins char = false := by
  rw [Bool.eq_false_iff]
  intro hbegins
  obtain ⟨symbol, hsymbol⟩ := Symbol.begins_iff.1 hbegins
  have hother : isWordChar char = false := by
    cases symbol <;> cases hsymbol <;> decide +kernel
  simp [h] at hother

/-- Word characters are no separators. -/
theorem isSeparator_of_isWordChar {char : Char} (h : isWordChar char = true) :
    isSeparator char = false := by
  simp [isSeparator, isBlank_of_isWordChar h, begins_of_isWordChar h]

namespace Lexeme

variable {first : Char} {tail : List Char}

/-- What a letter or `_` begins goes on to the first separator. -/
theorem split_eq_takeWhile (h : beginsWord first = true) :
    split first tail =
      (.word (first :: tail.takeWhile (!isSeparator ·)), tail.dropWhile (!isSeparator ·)) := by
  have hscan := splitWhere_eq_takeWhile isSeparator [first] tail
  rw [split_of_beginsWord h, show splitWhere endsWord [first] tail = _ from hscan]
  rfl

/-- Words are begun by a letter or `_`, and not by a digit. -/
theorem beginsWord_of_split {text : List Char} (h : (split first tail).1 = .word text) :
    isDigit first = false ∧ beginsWord first = true := by
  revert h
  unfold split
  split
  · simp
  · next hdigit =>
    split
    · next hbegins => exact fun _ => ⟨Bool.not_eq_true _ ▸ hdigit, hbegins⟩
    · intro h
      exfalso
      split at h
      · simp [splitLine] at h
      · next body _ =>
        obtain ⟨_, hblock, -⟩ := splitBlock_inv (Prod.eta (splitBlock body)).symm (by simp [h])
        cases h.symm.trans hblock
      · obtain ⟨_, hsymbol⟩ := splitSymbol_inv (Prod.eta (splitSymbol first tail)).symm
        cases h.symm.trans hsymbol

/-- Identifiers are made of words that have their form, are not too long and are no keywords. -/
theorem kind?_eq_identifier_iff {lexeme : Lexeme} :
    lexeme.kind? = some .identifier ↔ ∃ text, lexeme = .word text ∧
      Keyword.ofString? (String.ofList text) = none ∧ text.length ≤ Limits.identifierLength ∧
      Token.hasIdentifierForm text = true := by
  cases lexeme with
  | number text =>
    simp only [kind?]
    split <;> simp
  | word text =>
    simp only [kind?, Lexeme.text]
    cases hkeyword : Keyword.ofString? (String.ofList text) <;> simp [hkeyword]
  | comment text => simp [kind?]
  | openComment text => simp [kind?]
  | symbol text => simp [kind?]

end Lexeme

/-- A text makes an identifier if it has the form of one and is no keyword. -/
theorem Token.exists_identifier_iff {text : String} {span : Span} :
    (∃ token, Token.identifier text span = .ok token) ↔
      hasIdentifierForm text.toList = true ∧ Keyword.ofString? text = none := by
  unfold Token.identifier
  cases hasIdentifierForm text.toList <;> cases Keyword.ofString? text <;> simp

/-- A text that is not too long is lexed to an identifier that consists of all of it if and only if
it makes an identifier and begins with a letter or `_`. -/
theorem lexesTo_identifier_iff (preferences : LexicalPreferences) {text : String} (span : Span)
    (hlength : text.length ≤ Limits.identifierLength) :
    LexesTo preferences text .identifier ↔
      (∃ token, Token.identifier text span = .ok token) ∧
        text.toList.head?.any beginsWord = true := by
  rw [lexesTo_iff (by decide), Token.exists_identifier_iff]
  constructor
  · rintro ⟨first, tail, htext, -, hrest, hkind⟩
    obtain ⟨word, hword, hkeyword, -, hform⟩ := Lexeme.kind?_eq_identifier_iff.1 hkind
    have hcut := Lexeme.text_append_rest first tail
    rw [hrest, List.append_nil, hword, ← htext] at hcut
    obtain rfl : word = text.toList := hcut
    rw [String.ofList_toList] at hkeyword
    exact ⟨⟨hform, hkeyword⟩, by rw [htext]; exact (Lexeme.beginsWord_of_split hword).2⟩
  · rintro ⟨⟨hform, hkeyword⟩, hbegins⟩
    cases htext : text.toList with
    | nil => simp [htext] at hbegins
    | cons first tail =>
      rw [htext] at hform hbegins
      obtain ⟨hdigit, hfirst, htail⟩ : isDigit first = false ∧ isWordChar first = true ∧
          ∀ char ∈ tail, isWordChar char = true := by
        simpa [Token.hasIdentifierForm] using hform
      -- Word characters are no separators, so the word goes on to the end.
      have hword : ∀ char ∈ tail, (!isSeparator char) = true := fun char hchar => by
        simp [isSeparator_of_isWordChar (htail char hchar)]
      have hsplit : Lexeme.split first tail = (.word (first :: tail), []) := by
        rw [Lexeme.split_eq_takeWhile hbegins, List.takeWhile_eq_self_iff.2 hword,
          List.dropWhile_eq_nil_iff.2 hword]
      refine ⟨first, tail, rfl, isBlank_of_isWordChar hfirst, by rw [hsplit], ?_⟩
      refine Lexeme.kind?_eq_identifier_iff.2 ⟨_, by rw [hsplit], ?_, ?_, hform⟩
      · rwa [← htext, String.ofList_toList]
      · rwa [← htext, String.length_toList]

/-- Behind a letter, a word goes on over connectors, marks and digits of any script. -/
theorem lexesTo_identifier_marked :
    "\u00e9\u203f\u0301\u0663".length ≤ Limits.identifierLength ∧
      LexesTo default "\u00e9\u203f\u0301\u0663" .identifier := by
  have hlength : "\u00e9\u203f\u0301\u0663".length ≤ Limits.identifierLength := by decide
  have hmade : Token.identifier "\u00e9\u203f\u0301\u0663" default =
      .ok ⟨.identifier, "\u00e9\u203f\u0301\u0663", default⟩ := by decide +kernel
  have hbegins : "\u00e9\u203f\u0301\u0663".toList.head?.any beginsWord = true := by
    decide +kernel
  exact ⟨hlength, (lexesTo_identifier_iff default default hlength).2 ⟨⟨_, hmade⟩, hbegins⟩⟩

/-- A connector makes an identifier together with a letter, but does not begin a word. -/
theorem identifier_not_lexesTo :
    "\u203fx".length ≤ Limits.identifierLength ∧
      (∃ token, Token.identifier "\u203fx" default = .ok token) ∧
      ¬ LexesTo default "\u203fx" .identifier := by
  have hmade : Token.identifier "\u203fx" default =
      .ok ⟨.identifier, "\u203fx", default⟩ := by decide +kernel
  refine ⟨by decide, ⟨_, hmade⟩, fun hlexes => ?_⟩
  obtain ⟨first, tail, htext, -, hrest, -⟩ := (lexesTo_iff (by decide)).1 hlexes
  obtain ⟨rfl, rfl⟩ := List.cons.inj (show ['\u203f', 'x'] = first :: tail from htext)
  exact absurd hrest (by decide +kernel)

end VinylSyntax
