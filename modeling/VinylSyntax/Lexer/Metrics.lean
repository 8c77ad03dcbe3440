import VinylSyntax.Preferences
import VinylSyntax.Token.Basic

/-!
# Counts of a lexer

What a lexer counts while it runs. The total and the errors are always counted, the tokens of each
kind and the longest texts only if that is preferred.
-/

namespace VinylSyntax

/-- What a lexer has counted so far. -/
structure Metrics where
  tokens : Nat
  integers : Nat
  floats : Nat
  identifiers : Nat
  keywords : Nat
  symbols : Nat
  comments : Nat
  errors : Nat
  longestIdentifier : Nat
  longestComment : Nat
deriving DecidableEq, Inhabited

namespace Metrics

/-- Nothing counted yet. -/
def zero : Metrics := ⟨0, 0, 0, 0, 0, 0, 0, 0, 0, 0⟩

/-- Counts a token under its kind. -/
def countKind (metrics : Metrics) (token : Token) : Metrics :=
  match token.kind with
  | .integer _ => { metrics with integers := metrics.integers + 1 }
  | .float _ => { metrics with floats := metrics.floats + 1 }
  | .identifier =>
    { metrics with
      identifiers := metrics.identifiers + 1
      longestIdentifier := max metrics.longestIdentifier token.text.length }
  | .keyword _ => { metrics with keywords := metrics.keywords + 1 }
  | .symbol _ => { metrics with symbols := metrics.symbols + 1 }
  | .comment =>
    { metrics with
      comments := metrics.comments + 1
      longestComment := max metrics.longestComment token.text.length }

/-- Counts a token. -/
def countToken (metrics : Metrics) (preferences : LexicalPreferences) (token : Token) : Metrics :=
  let metrics := { metrics with tokens := metrics.tokens + 1 }
  if preferences.detailedMetrics then metrics.countKind token else metrics

/-- Counts an error. -/
def countError (metrics : Metrics) : Metrics := { metrics with errors := metrics.errors + 1 }

/-- Counting a token by its kind leaves the total as it is. -/
@[simp] theorem tokens_countKind (metrics : Metrics) (token : Token) :
    (metrics.countKind token).tokens = metrics.tokens := by
  unfold countKind
  split <;> rfl

/-- Counting a token by its kind counts no error. -/
@[simp] theorem errors_countKind (metrics : Metrics) (token : Token) :
    (metrics.countKind token).errors = metrics.errors := by
  unfold countKind
  split <;> rfl

/-- Counting a token raises the total by one. -/
@[simp] theorem tokens_countToken (metrics : Metrics) (preferences : LexicalPreferences)
    (token : Token) : (metrics.countToken preferences token).tokens = metrics.tokens + 1 := by
  unfold countToken
  split <;> simp

/-- Counting a token counts no error. -/
@[simp] theorem errors_countToken (metrics : Metrics) (preferences : LexicalPreferences)
    (token : Token) : (metrics.countToken preferences token).errors = metrics.errors := by
  unfold countToken
  split <;> simp

end Metrics

end VinylSyntax
