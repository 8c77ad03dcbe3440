import VinylSyntax.Limits
import VinylSyntax.Token.Basic

/-!
# Lexical errors

What can be wrong with a lexeme: it is refused as a token, it is a comment without end, or it breaks
one of the limits.
-/

namespace VinylSyntax

/-- Why a lexeme is no token, or why there may be no further one. -/
inductive LexicalError where
  | token (error : TokenError)
  | unterminatedComment (span : Span)
  | identifierTooLong (length : Nat) (span : Span)
  | commentTooLong (length : Nat) (span : Span)
  | tooManyTokens (count : Nat) (span : Span)
deriving DecidableEq, Inhabited

namespace LexicalError

/-- The code that an error is reported with. -/
def code : LexicalError → Code
  | .token error => error.code
  | .unterminatedComment _ => .unterminatedComment
  | .identifierTooLong _ _ => .identifierTooLong
  | .commentTooLong _ _ => .commentTooLong
  | .tooManyTokens _ _ => .tooManyTokens

/-- The stretch of source that an error is about. -/
def span : LexicalError → Span
  | .token error => error.span
  | .unterminatedComment span => span
  | .identifierTooLong _ span => span
  | .commentTooLong _ span => span
  | .tooManyTokens _ span => span

/-- What an error says. -/
def message : LexicalError → String
  | .token error => error.message
  | .unterminatedComment _ => "Unterminated block comment"
  | .identifierTooLong length _ =>
    s!"Identifier too long: {length} characters (max {Limits.identifierLength})"
  | .commentTooLong length _ =>
    s!"Comment too long: {length} characters (max {Limits.commentLength})"
  | .tooManyTokens count _ => s!"Too many tokens: {count} (max {Limits.tokenCount})"

end LexicalError

end VinylSyntax
