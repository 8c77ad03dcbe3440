import VinylSyntax.Diagnostic.Code
import VinylSyntax.Location
import VinylSyntax.Numeral.Float
import VinylSyntax.Numeral.Integer
import VinylSyntax.Token.Keyword
import VinylSyntax.Token.Symbol

/-!
# Tokens

A token is a lexeme that was checked against the rules of its kind, together with its place. The
functions `Token.integer` to `Token.comment` make the tokens of each kind; all but the last refuse a
text that breaks the rules of the kind.
-/

namespace VinylSyntax

/-- What a token is, with what was decoded from its text. -/
inductive TokenKind where
  | integer (literal : IntegerLiteral)
  | float (literal : FloatLiteral)
  | identifier
  | keyword (keyword : Keyword)
  | symbol (symbol : Symbol)
  | comment
deriving DecidableEq, Inhabited

namespace TokenKind

/-- What a kind of token is called in messages. -/
def label : TokenKind → String
  | .integer _ => "integer literal"
  | .float _ => "floating point literal"
  | .identifier => "identifier"
  | .keyword _ => "keyword"
  | .symbol _ => "symbol"
  | .comment => "comment"

end TokenKind

/-- A checked lexeme: its kind, its text and the stretch of source that it covers. -/
structure Token where
  kind : TokenKind
  text : String
  span : Span
deriving DecidableEq, Inhabited

/-- Why a text is not a token of the kind asked for. -/
inductive TokenFault where
  | malformedInteger
  | malformedFloat
  | malformedIdentifier
  | reservedIdentifier
  | malformedKeyword
  | malformedSymbol
deriving DecidableEq, Inhabited

/-- A text refused as a token, and the stretch of source that it covers. -/
structure TokenError where
  fault : TokenFault
  text : String
  span : Span
deriving DecidableEq, Inhabited

namespace TokenError

/-- The code that a refusal is reported with. -/
def code (error : TokenError) : Code :=
  match error.fault with
  | .malformedInteger => .malformedInteger
  | .malformedFloat => .malformedFloat
  | .malformedIdentifier => .malformedIdentifier
  | .reservedIdentifier => .reservedIdentifier
  | .malformedKeyword => .malformedKeyword
  | .malformedSymbol => .malformedSymbol

/-- What a refusal says. -/
def message (error : TokenError) : String :=
  match error.fault with
  | .malformedInteger => "Malformed integer literal"
  | .malformedFloat => "Malformed floating point literal"
  | .malformedIdentifier => "Malformed identifier"
  | .reservedIdentifier => s!"Reserved keyword \"{error.text}\" cannot be used as an identifier"
  | .malformedKeyword => "Malformed keyword"
  | .malformedSymbol => "Malformed symbol"

end TokenError

namespace Token

/-- The integer token of a text, which must be an integer numeral. -/
def integer (text : String) (span : Span) : Except TokenError Token :=
  match IntegerLiteral.ofString? text with
  | some literal => .ok ⟨.integer literal, text, span⟩
  | none => .error ⟨.malformedInteger, text, span⟩

/-- The floating point token of a text, which must be a floating point numeral. -/
def float (text : String) (span : Span) : Except TokenError Token :=
  match FloatLiteral.ofString? text with
  | some literal => .ok ⟨.float literal, text, span⟩
  | none => .error ⟨.malformedFloat, text, span⟩

/-- Whether a text has the form of an identifier: at least one character, word characters only, and
no digit at its beginning. -/
def hasIdentifierForm (text : List Char) : Bool :=
  match text with
  | [] => false
  | first :: _ => !isDigit first && text.all isWordChar

/-- The identifier of a text, which must have the form of one and be no keyword. -/
def identifier (text : String) (span : Span) : Except TokenError Token :=
  if !hasIdentifierForm text.toList then .error ⟨.malformedIdentifier, text, span⟩
  else if (Keyword.ofString? text).isSome then .error ⟨.reservedIdentifier, text, span⟩
  else .ok ⟨.identifier, text, span⟩

/-- The keyword token of a text, which must spell one. -/
def keyword (text : String) (span : Span) : Except TokenError Token :=
  match Keyword.ofString? text with
  | some keyword => .ok ⟨.keyword keyword, text, span⟩
  | none => .error ⟨.malformedKeyword, text, span⟩

/-- The symbol token of a text, which must spell one. -/
def symbol (text : String) (span : Span) : Except TokenError Token :=
  match Symbol.ofString? text with
  | some symbol => .ok ⟨.symbol symbol, text, span⟩
  | none => .error ⟨.malformedSymbol, text, span⟩

/-- The comment of a text; any text will do. -/
def comment (text : String) (span : Span) : Token := ⟨.comment, text, span⟩

/-- What the kind of a token is called in messages. -/
def label (token : Token) : String := token.kind.label

/-- Two tokens are alike if they have the same kind and text, wherever they stand. -/
def alike (a b : Token) : Bool := a.kind == b.kind && a.text == b.text

/-- Whether a token is an identifier. -/
def isIdentifier (token : Token) : Bool := token.kind == .identifier

/-- Whether a token is a comment. -/
def isComment (token : Token) : Bool := token.kind == .comment

/-- Whether a token is a certain keyword. -/
def isKeyword (keyword : Keyword) (token : Token) : Bool := token.kind == .keyword keyword

/-- Whether a token is a certain symbol. -/
def isSymbol (symbol : Symbol) (token : Token) : Bool := token.kind == .symbol symbol

/-- The literal of an integer token. -/
def integerLiteral? (token : Token) : Option IntegerLiteral :=
  match token.kind with
  | .integer literal => some literal
  | _ => none

/-- The literal of a floating point token. -/
def floatLiteral? (token : Token) : Option FloatLiteral :=
  match token.kind with
  | .float literal => some literal
  | _ => none

/-- A token is shown by its kind and its text in quotes. -/
def render (token : Token) : String := s!"{token.label}: \"{token.text}\""

/-- Being alike does not depend on places. -/
theorem alike_iff {a b : Token} : a.alike b = true ↔ a.kind = b.kind ∧ a.text = b.text := by
  simp [alike]

end Token

end VinylSyntax
