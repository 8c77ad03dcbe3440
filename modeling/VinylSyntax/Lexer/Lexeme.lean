import VinylSyntax.CharacterClass
import VinylSyntax.Cursor
import VinylSyntax.Lexer.Error

/-!
# Lexemes

A lexeme is the stretch of text that one token, or one lexical error, comes from. Its first
characters select what it is and where it ends:

* a digit begins a number, which ends in front of a separator other than the sign of an exponent or
  a decimal point;
* a letter or `_` begins a word, which ends in front of a separator;
* `//` begins a comment up to the end of the line, `/*` one up to and including the next `*/`;
* everything else is the longest symbol that stands there, or a single character.

Separators are white space and the characters that begin symbols. `Lexeme.split` cuts the first
lexeme off a text, losing nothing (`Lexeme.text_append_rest`), and `Lexeme.token` makes a token of
it. A number is cut off segment by segment, from one decimal point to the next, which is the same as
a single scan that passes decimal points (`Lexeme.split_of_isDigit`).
-/

namespace VinylSyntax

/-- Whether a character ends a word: white space, or the beginning of a symbol. -/
def isSeparator (char : Char) : Bool := isBlank char || Symbol.begins char

/-- ASCII letters and digits are no separators. -/
theorem isSeparator_of_isAlphanum {char : Char} (h : char.isAlphanum = true) :
    isSeparator char = false := by
  simp [isSeparator, isBlank_of_isAlphanum h, Symbol.begins_of_isAlphanum h]

/-- Whether a word begins with a character: a letter or `_`. -/
def beginsWord (char : Char) : Bool := isAlphabetic char || char == '_'

/-- What begins a word is no separator. -/
theorem isSeparator_of_beginsWord {char : Char} (h : beginsWord char = true) :
    isSeparator char = false := by
  have hblank : isBlank char = false := by
    rw [beginsWord, Bool.or_eq_true, beq_iff_eq] at h
    rcases h with hletter | rfl
    · exact isBlank_of_isAlphabetic hletter
    · decide
  have hbegins : Symbol.begins char = false := by
    rw [Bool.eq_false_iff]
    intro hbegins
    obtain ⟨symbol, hsymbol⟩ := Symbol.begins_iff.1 hbegins
    have hother : beginsWord char = false := by
      cases symbol <;> cases hsymbol <;> decide +kernel
    simp [h] at hother
  simp [isSeparator, hblank, hbegins]

/-- No digit begins a word. -/
theorem isDigit_of_beginsWord {char : Char} (h : beginsWord char = true) :
    isDigit char = false := by
  rw [Bool.eq_false_iff]
  intro hdigit
  rw [beginsWord, Bool.or_eq_true, beq_iff_eq] at h
  rcases h with hletter | rfl
  · rw [isAlphabetic_of_isDigit hdigit] at hletter
    cases hletter
  · cases hdigit

/-- Whether a character ends a number, but for a decimal point: a separator that is not the sign of
an exponent. -/
def isNumberSeparator (previous : Option Char) (char : Char) : Bool :=
  match previous, char with
  | some 'e', '+' | some 'e', '-' | some 'E', '+' | some 'E', '-' => false
  | _, char => isSeparator char

/-- Whether a point behind a digit belongs to the number, given the character behind the point: a
digit, an exponent, a separator or nothing. -/
def isDecimalPointContinuation (next : Option Char) : Bool :=
  match next with
  | none => true
  | some char => isDigit char || char == 'e' || char == 'E' || isSeparator char

/-- Whether a character is the second one of the mark that closes a comment. -/
def isCommentTerminator (previous : Option Char) (char : Char) : Bool :=
  previous == some '*' && char == '/'

/-- Whether a character is the point of a decimal number. -/
def isDecimalPoint (previous : Option Char) (char : Char) (next : Option Char) : Bool :=
  char == '.' && previous.any isDigit && isDecimalPointContinuation next

/-- Whether a segment of a number, which has no decimal point in it, ends in front of a
character. -/
def endsSegment (previous : Option Char) (char : Char) (_ : Option Char) : Bool :=
  isNumberSeparator previous char

/-- Whether a number ends in front of a character. -/
def endsNumber (previous : Option Char) (char : Char) (next : Option Char) : Bool :=
  isNumberSeparator previous char && !isDecimalPoint previous char next

/-- Whether a word ends in front of a character. -/
def endsWord (_ : Option Char) (char : Char) (_ : Option Char) : Bool := isSeparator char

/-- Whether a line ends in front of a character. -/
def endsLine (_ : Option Char) (char : Char) (_ : Option Char) : Bool := char == '\n'

/-- Whether a block comment ends with a character. -/
def endsBlock (previous : Option Char) (char : Char) (_ : Option Char) : Bool :=
  isCommentTerminator previous char

/-- The text of one token or lexical error, by what its first characters make of it. -/
inductive Lexeme where
  | number (text : List Char)
  | word (text : List Char)
  | comment (text : List Char)
  | openComment (text : List Char)
  | symbol (text : List Char)
deriving DecidableEq, Inhabited

namespace Lexeme

/-- The characters of a lexeme. -/
def text : Lexeme → List Char
  | .number text => text
  | .word text => text
  | .comment text => text
  | .openComment text => text
  | .symbol text => text

/-- Cuts the block comment off a text, given what stands behind its opening mark. Without a closing
mark, all of the text is an open comment. -/
def splitBlock (body : List Char) : Lexeme × List Char :=
  match splitWhere endsBlock [] body with
  | (inner, last :: rest) => (.comment ('/' :: '*' :: (inner ++ [last])), rest)
  | (inner, []) => (.openComment ('/' :: '*' :: inner), [])

/-- Cuts the line comment off a text, given what stands behind its opening mark. -/
def splitLine (body : List Char) : Lexeme × List Char :=
  let (inner, rest) := splitWhere endsLine [] body
  (.comment ('/' :: '/' :: inner), rest)

/-- Cuts the longest symbol off a text, given its first character. -/
def splitSymbol (first : Char) (rest : List Char) : Lexeme × List Char :=
  match rest with
  | second :: tail =>
    if (Symbol.ofPair? first second).isSome then (.symbol [first, second], tail)
    else (.symbol [first], second :: tail)
  | [] => (.symbol [first], [])

/-- Cuts a number off a text segment by segment, where the characters of the segments before stand
in `scanned`, latest first. A decimal point behind a segment belongs to the number, and what follows
it is scanned for itself. -/
def splitSegments (scanned text : List Char) : List Char × List Char :=
  match hsegment : splitWhere endsSegment [] text with
  | (segment, []) => (scanned.reverse ++ segment, [])
  | (segment, char :: rest) =>
    let scanned := segment.reverse ++ scanned
    if isDecimalPoint scanned.head? char rest.head? then
      have := length_lt_of_splitWhere hsegment
      splitSegments (char :: scanned) rest
    else (scanned.reverse, char :: rest)
termination_by text.length

/-- Cuts the first lexeme off a text, given its first character, which is not white space. -/
def split (first : Char) (rest : List Char) : Lexeme × List Char :=
  if isDigit first then
    let (text, rest) := splitSegments [] (first :: rest)
    (.number text, rest)
  else if beginsWord first then
    let (text, rest) := splitWhere endsWord [] (first :: rest)
    (.word text, rest)
  else
    match first, rest with
    | '/', '/' :: body => splitLine body
    | '/', '*' :: body => splitBlock body
    | first, rest => splitSymbol first rest

/-- The token of a lexeme that covers a span, if the lexeme is well formed and not too long. -/
def token (lexeme : Lexeme) (span : Span) : Except LexicalError Token :=
  match lexeme with
  | .number text =>
    let text := String.ofList text
    match Token.float text span with
    | .ok token => .ok token
    | .error _ => (Token.integer text span).mapError .token
  | .word chars =>
    let text := String.ofList chars
    if (Keyword.ofString? text).isSome then (Token.keyword text span).mapError .token
    else if Limits.identifierLength < chars.length then
      .error (.identifierTooLong chars.length span)
    else (Token.identifier text span).mapError .token
  | .comment chars =>
    if Limits.commentLength < chars.length then .error (.commentTooLong chars.length span)
    else .ok (Token.comment (String.ofList chars) span)
  | .openComment _ => .error (.unterminatedComment span)
  | .symbol text => (Token.symbol (String.ofList text) span).mapError .token

/-- A segment is scanned as if nothing stood in front of it, unless that is an exponent. -/
theorem splitWhere_endsSegment {scanned : List Char} (text : List Char)
    (h : ∀ char, isNumberSeparator scanned.head? char = isSeparator char) :
    splitWhere endsSegment scanned text =
      (scanned.reverse ++ (splitWhere endsSegment [] text).1,
        (splitWhere endsSegment [] text).2) :=
  splitWhere_behind scanned [] text fun char _ => h char

/-- A number goes on at least to the end of the segment in front. -/
theorem splitWhere_endsNumber (scanned text : List Char) :
    splitWhere endsNumber scanned text =
      splitWhere endsNumber (splitWhere endsSegment scanned text).1.reverse
        (splitWhere endsSegment scanned text).2 := by
  refine splitWhere_of_le (fun previous char next hends => ?_) scanned text
  exact (Bool.and_eq_true_iff.1 hends).1

/-- Scanning a number segment by segment comes to the same as scanning it in one pass: behind a
decimal point, as at the beginning, a sign is never that of an exponent. -/
theorem splitSegments_eq {scanned : List Char} (text : List Char)
    (h : ∀ char, isNumberSeparator scanned.head? char = isSeparator char) :
    splitSegments scanned text = splitWhere endsNumber scanned text := by
  fun_induction splitSegments scanned text with
  | case1 scanned text segment hsegment =>
    rw [splitWhere_endsNumber, splitWhere_endsSegment text h, hsegment]
    simp [splitWhere]
  | case2 scanned text segment char rest hsegment scanned' hpoint hlt ih =>
    have hstop : splitWhere endsSegment scanned text = (scanned'.reverse, char :: rest) := by
      rw [splitWhere_endsSegment text h, hsegment, List.reverse_append, List.reverse_reverse]
    have hmore : ¬ endsNumber scanned'.head? char rest.head? = true := by
      simp [endsNumber, hpoint]
    obtain rfl : char = '.' := by simp_all [isDecimalPoint]
    rw [splitWhere_endsNumber, hstop, List.reverse_reverse, splitWhere, if_neg hmore]
    exact ih fun _ => rfl
  | case3 scanned text segment char rest hsegment scanned' hpoint =>
    have hstop : splitWhere endsSegment scanned text = (scanned'.reverse, char :: rest) := by
      rw [splitWhere_endsSegment text h, hsegment, List.reverse_append, List.reverse_reverse]
    have hends : endsNumber scanned'.head? char rest.head? = true := by
      have hseparator : endsSegment scanned'.reverse.reverse.head? char rest.head? = true :=
        stop_of_splitWhere hstop
      rw [List.reverse_reverse, endsSegment] at hseparator
      simp [endsNumber, hseparator, hpoint]
    rw [splitWhere_endsNumber, hstop, List.reverse_reverse, splitWhere, if_pos hends]

/-- A number is all that a digit begins up to the first place where a number ends. -/
theorem split_of_isDigit {first : Char} (h : isDigit first = true) (rest : List Char) :
    split first rest =
      (.number (splitWhere endsNumber [first] rest).1, (splitWhere endsNumber [first] rest).2) := by
  have hseparator := isSeparator_of_isAlphanum (isAlphanum_of_isDigit h)
  have hfirst : ¬ endsNumber none first rest.head? = true := by
    simp [endsNumber, isNumberSeparator, hseparator]
  have hnumber : splitSegments [] (first :: rest) = splitWhere endsNumber [first] rest := by
    rw [splitSegments_eq _ fun _ => rfl, splitWhere]
    exact if_neg hfirst
  unfold split
  rw [if_pos h, hnumber]

/-- The scan for the end of a word passes its first character. -/
theorem splitWhere_endsWord {first : Char} (h : beginsWord first = true) (rest : List Char) :
    splitWhere endsWord [] (first :: rest) = splitWhere endsWord [first] rest := by
  have hfirst : ¬ endsWord none first rest.head? = true := by
    simp [endsWord, isSeparator_of_beginsWord h]
  rw [splitWhere]
  exact if_neg hfirst

/-- A word is all that a letter or `_` begins up to the first place where a word ends. -/
theorem split_of_beginsWord {first : Char} (h : beginsWord first = true) (rest : List Char) :
    split first rest =
      (.word (splitWhere endsWord [first] rest).1, (splitWhere endsWord [first] rest).2) := by
  have hdigit : ¬ isDigit first = true := by simp [isDigit_of_beginsWord h]
  unfold split
  rw [if_neg hdigit, if_pos h, splitWhere_endsWord h]

/-- A line comment and what is left behind it make up the text. -/
theorem splitLine_append (body : List Char) :
    (splitLine body).1.text ++ (splitLine body).2 = '/' :: '/' :: body := by
  simpa [splitLine, text] using splitWhere_append endsLine [] body

/-- A block comment, closed or open, and what is left behind it make up the text. -/
theorem splitBlock_append (body : List Char) :
    (splitBlock body).1.text ++ (splitBlock body).2 = '/' :: '*' :: body := by
  have h := splitWhere_append endsBlock [] body
  unfold splitBlock
  split <;> next hsplit => simpa [hsplit, text] using h

/-- A symbol and what is left behind it make up the text. -/
theorem splitSymbol_append (first : Char) (rest : List Char) :
    (splitSymbol first rest).1.text ++ (splitSymbol first rest).2 = first :: rest := by
  unfold splitSymbol
  split
  · split <;> rfl
  · rfl

/-- A lexeme and what is left behind it make up the text. -/
theorem text_append_rest (first : Char) (rest : List Char) :
    (split first rest).1.text ++ (split first rest).2 = first :: rest := by
  by_cases hdigit : isDigit first = true
  · rw [split_of_isDigit hdigit]
    simpa [text] using splitWhere_append endsNumber [first] rest
  · by_cases hword : beginsWord first = true
    · rw [split_of_beginsWord hword]
      simpa [text] using splitWhere_append endsWord [first] rest
    · unfold split
      rw [if_neg hdigit, if_neg hword]
      split
      · exact splitLine_append _
      · exact splitBlock_append _
      · exact splitSymbol_append _ _

/-- What is left behind a line comment is no longer than what stands behind its mark. -/
theorem length_splitLine_le (body : List Char) : (splitLine body).2.length ≤ body.length :=
  length_splitWhere_le endsLine [] body

/-- What is left behind a block comment is no longer than what stands behind its mark. -/
theorem length_splitBlock_le (body : List Char) : (splitBlock body).2.length ≤ body.length := by
  have h := length_splitWhere_le endsBlock [] body
  unfold splitBlock
  split
  · next hsplit =>
    rw [hsplit] at h
    exact Nat.le_of_succ_le h
  · exact Nat.zero_le _

/-- What is left behind a symbol is no longer than the text behind its first character. -/
theorem length_splitSymbol_le (first : Char) (rest : List Char) :
    (splitSymbol first rest).2.length ≤ rest.length := by
  unfold splitSymbol
  split
  · split
    · exact Nat.le_succ _
    · exact Nat.le_refl _
  · exact Nat.le_refl _

/-- What is left behind a lexeme is no longer than the text behind its first character. -/
theorem length_rest_le (first : Char) (rest : List Char) :
    (split first rest).2.length ≤ rest.length := by
  by_cases hdigit : isDigit first = true
  · rw [split_of_isDigit hdigit]
    exact length_splitWhere_le endsNumber [first] rest
  · by_cases hword : beginsWord first = true
    · rw [split_of_beginsWord hword]
      exact length_splitWhere_le endsWord [first] rest
    · unfold split
      rw [if_neg hdigit, if_neg hword]
      split
      · exact Nat.le_succ_of_le (length_splitLine_le _)
      · exact Nat.le_succ_of_le (length_splitBlock_le _)
      · exact length_splitSymbol_le _ _

end Lexeme

end VinylSyntax
