/-!
# Symbols

Punctuation and operators, each spelled by one or two characters. Where two spellings begin alike,
as `-` and `->` do, the longer one is meant.
-/

namespace VinylSyntax

/-- A punctuation mark or operator. -/
inductive Symbol where
  | arrow
  | scope
  | comma
  | dot
  | semicolon
  | plus
  | minus
  | asterisk
  | slash
  | lessThan
  | greaterThan
  | equal
  | colon
  | parenOpen
  | parenClose
  | quoteSingle
  | exclamationPoint
  | bracketOpen
  | bracketClose
  | braceOpen
  | braceClose
deriving DecidableEq, Inhabited

namespace Symbol

/-- Every symbol. -/
def all : List Symbol :=
  [.arrow, .scope, .comma, .dot, .semicolon, .plus, .minus, .asterisk, .slash, .lessThan,
   .greaterThan, .equal, .colon, .parenOpen, .parenClose, .quoteSingle, .exclamationPoint,
   .bracketOpen, .bracketClose, .braceOpen, .braceClose]

/-- A symbol as it stands in source text. -/
def spelling : Symbol → String
  | .arrow => "->"
  | .scope => "::"
  | .comma => ","
  | .dot => "."
  | .semicolon => ";"
  | .plus => "+"
  | .minus => "-"
  | .asterisk => "*"
  | .slash => "/"
  | .lessThan => "<"
  | .greaterThan => ">"
  | .equal => "="
  | .colon => ":"
  | .parenOpen => "("
  | .parenClose => ")"
  | .quoteSingle => "'"
  | .exclamationPoint => "!"
  | .bracketOpen => "["
  | .bracketClose => "]"
  | .braceOpen => "\x7b"
  | .braceClose => "\x7d"

/-- The name under which a symbol is exchanged. -/
def name : Symbol → String
  | .arrow => "Arrow"
  | .scope => "Scope"
  | .comma => "Comma"
  | .dot => "Dot"
  | .semicolon => "SemiColon"
  | .plus => "Plus"
  | .minus => "Minus"
  | .asterisk => "Asterisk"
  | .slash => "Slash"
  | .lessThan => "LessThan"
  | .greaterThan => "GreaterThan"
  | .equal => "Equal"
  | .colon => "Colon"
  | .parenOpen => "ParenOpen"
  | .parenClose => "ParenClose"
  | .quoteSingle => "QuoteSingle"
  | .exclamationPoint => "ExclamationPoint"
  | .bracketOpen => "BracketOpen"
  | .bracketClose => "BracketClose"
  | .braceOpen => "BraceOpen"
  | .braceClose => "BraceClose"

/-- The number of characters of the longest spelling. -/
def longest : Nat := 2

/-- The symbol that a single character spells. -/
def ofChar? : Char → Option Symbol
  | ',' => some .comma
  | '.' => some .dot
  | ';' => some .semicolon
  | '+' => some .plus
  | '-' => some .minus
  | '*' => some .asterisk
  | '/' => some .slash
  | '<' => some .lessThan
  | '>' => some .greaterThan
  | '=' => some .equal
  | ':' => some .colon
  | '(' => some .parenOpen
  | ')' => some .parenClose
  | '\'' => some .quoteSingle
  | '!' => some .exclamationPoint
  | '[' => some .bracketOpen
  | ']' => some .bracketClose
  | '{' => some .braceOpen
  | '}' => some .braceClose
  | _ => none

/-- The symbol that two characters spell together. -/
def ofPair? : Char → Char → Option Symbol
  | '-', '>' => some .arrow
  | ':', ':' => some .scope
  | _, _ => none

/-- The symbol that a text spells. -/
def ofChars? : List Char → Option Symbol
  | [char] => ofChar? char
  | [first, second] => ofPair? first second
  | _ => none

/-- The symbol that a text spells. -/
def ofString? (text : String) : Option Symbol := ofChars? text.toList

/-- Whether the spelling of some symbol begins with a character. -/
def begins (char : Char) : Bool := (ofChar? char).isSome

/-- No spelling begins with an ASCII letter or digit. -/
theorem begins_of_isAlphanum {char : Char} (h : char.isAlphanum = true) : begins char = false := by
  unfold begins ofChar?
  split <;> first | rfl | cases h

/-- The list of all symbols has every one of them. -/
theorem mem_all (symbol : Symbol) : symbol ∈ all := by
  cases symbol <;> decide

/-- What a symbol is spelled with spells that symbol. -/
theorem ofChars?_spelling (symbol : Symbol) : ofChars? symbol.spelling.toList = some symbol := by
  cases symbol <;> decide

/-- A symbol that a single character spells is spelled with that character. -/
theorem spelling_of_ofChar? {char : Char} {symbol : Symbol} (h : ofChar? char = some symbol) :
    symbol.spelling.toList = [char] := by
  unfold ofChar? at h
  split at h <;> cases h <;> decide

/-- A symbol that two characters spell is spelled with these two. -/
theorem spelling_of_ofPair? {first second : Char} {symbol : Symbol}
    (h : ofPair? first second = some symbol) : symbol.spelling.toList = [first, second] := by
  unfold ofPair? at h
  split at h <;> cases h <;> decide

/-- A text spells a symbol exactly if it is that symbol's spelling. -/
theorem ofChars?_eq_some_iff {text : List Char} {symbol : Symbol} :
    ofChars? text = some symbol ↔ text = symbol.spelling.toList := by
  constructor
  · intro h
    match text, h with
    | [_], h => exact (spelling_of_ofChar? h).symm
    | [_, _], h => exact (spelling_of_ofPair? h).symm
  · rintro rfl
    exact ofChars?_spelling symbol

/-- A character begins a spelling exactly if it is the first character of one. -/
theorem begins_iff {char : Char} :
    begins char = true ↔ ∃ symbol : Symbol, symbol.spelling.toList.head? = some char := by
  constructor
  · intro h
    obtain ⟨symbol, hsymbol⟩ := Option.isSome_iff_exists.1 h
    exact ⟨symbol, by rw [spelling_of_ofChar? hsymbol]; rfl⟩
  · rintro ⟨symbol, h⟩
    cases symbol <;> cases h <;> decide

end Symbol

end VinylSyntax
