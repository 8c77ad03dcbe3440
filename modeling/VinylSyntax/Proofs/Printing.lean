import VinylSyntax.Proofs.Grammar
import VinylSyntax.Proofs.Standalone

/-!
# Printing programs

A program is printed by the grammar, with single blanks between its tokens: no `else` stands in
front of an empty branch, and a semicolon behind every expression that is a statement. `unplaced`
forgets where the tokens of a tree stand, so that trees with the same `unplaced` are equal up to
their places.
-/

namespace VinylSyntax

/-! ## Trees without places -/

/-- The name without its place. -/
def Identifier.unplaced (identifier : Identifier) : Identifier := ⟨identifier.token.unplaced⟩

/-- The type name without its place. -/
def TypeName.unplaced (typeName : TypeName) : TypeName := ⟨typeName.token.unplaced⟩

/-- The argument without places. -/
def Argument.unplaced (argument : Argument) : Argument :=
  ⟨argument.identifier.unplaced, argument.typeName.unplaced⟩

/-- The expression without its place. -/
def Expression.unplaced : Expression → Expression
  | .identifier name => .identifier name.unplaced
  | .integer token => .integer token.unplaced
  | .float token => .float token.unplaced

/-- The declaration without places. -/
def Declaration.unplaced (declared : Declaration) : Declaration :=
  ⟨declared.identifier.unplaced, declared.typeName.unplaced,
    declared.value.map Expression.unplaced⟩

mutual

/-- The statement without places. -/
def Statement.unplaced : Statement → Statement
  | .expression operand => .expression operand.unplaced
  | .conditional condition whenTrue whenFalse =>
    .conditional condition.unplaced (Statement.unplacedIn whenTrue) (Statement.unplacedIn whenFalse)
  | .declaration declared => .declaration declared.unplaced

/-- Statements without places. -/
def Statement.unplacedIn : List Statement → List Statement
  | [] => []
  | statement :: statements => statement.unplaced :: Statement.unplacedIn statements

end

/-- The function without places. -/
def Function.unplaced (definition : Function) : Function :=
  ⟨definition.identifier.unplaced, definition.arguments.map Argument.unplaced,
    definition.returnType.map TypeName.unplaced, Statement.unplacedIn definition.body⟩

/-- The part of a program without places. -/
def TopLevel.unplaced : TopLevel → TopLevel
  | .function definition => .function definition.unplaced
  | .statement content => .statement content.unplaced

/-! ## Printing -/

/-- The tokens of an argument. -/
def Argument.printed (argument : Argument) : List Token :=
  [argument.identifier.token, argument.typeName.token]

/-- The tokens of arguments, with commas between them. -/
def Argument.printedIn : List Argument → List Token
  | [] => []
  | [argument] => argument.printed
  | argument :: next :: arguments =>
    argument.printed ++ .ofSymbol .comma :: Argument.printedIn (next :: arguments)

/-- The tokens of the value of a declared variable, if there is one. -/
def Declaration.printedValue : Option Expression → List Token
  | none => []
  | some value => [.ofSymbol .equal, value.token]

/-- The tokens of a declaration. -/
def Declaration.printed (declared : Declaration) : List Token :=
  .ofKeyword .letWord :: declared.identifier.token :: declared.typeName.token ::
    Declaration.printedValue declared.value

/-- Tokens in braces. -/
def bracedTokens (inner : List Token) : List Token :=
  .ofSymbol .braceOpen :: (inner ++ [.ofSymbol .braceClose])

mutual

/-- The tokens of a statement. -/
def Statement.printed : Statement → List Token
  | .expression operand => [operand.token, .ofSymbol .semicolon]
  | .conditional condition whenTrue whenFalse =>
    .ofKeyword .ifWord :: condition.token :: (bracedTokens (Statement.printedIn whenTrue) ++
      if whenFalse.isEmpty then []
      else .ofKeyword .elseWord :: bracedTokens (Statement.printedIn whenFalse))
  | .declaration declared => declared.printed

/-- The tokens of statements. -/
def Statement.printedIn : List Statement → List Token
  | [] => []
  | statement :: statements => statement.printed ++ Statement.printedIn statements

end

/-- The tokens of a function. -/
def Function.printed (definition : Function) : List Token :=
  .ofKeyword .defWord :: definition.identifier.token :: .ofSymbol .parenOpen ::
    (Argument.printedIn definition.arguments ++ .ofSymbol .parenClose ::
      (definition.returnType.toList.map TypeName.token ++
        bracedTokens (Statement.printedIn definition.body)))

namespace TopLevel

/-- The tokens of a part of a program. -/
def printed : TopLevel → List Token
  | .function definition => definition.printed
  | .statement content => content.printed

/-- The tokens of a program. -/
def printedIn (parts : List TopLevel) : List Token := parts.flatMap printed

/-- The text of a program: its tokens with single blanks between them. -/
def render (parts : List TopLevel) : String :=
  " ".intercalate ((printedIn parts).map Token.text)

end TopLevel

/-! ## Well-formed trees -/

section WellFormed

variable (leaf : Token → Prop)

/-- A name is an identifier, and its token is a leaf. -/
def Identifier.WellFormed (identifier : Identifier) : Prop :=
  identifier.token.kind = .identifier ∧ leaf identifier.token

/-- A type name is an identifier, and its token is a leaf. -/
def TypeName.WellFormed (typeName : TypeName) : Prop :=
  typeName.token.kind = .identifier ∧ leaf typeName.token

/-- An argument is made of well-formed names. -/
def Argument.WellFormed (argument : Argument) : Prop :=
  argument.identifier.WellFormed leaf ∧ argument.typeName.WellFormed leaf

/-- The token of an expression is of the kind of the expression, and is a leaf. -/
def Expression.WellFormed (expression : Expression) : Prop :=
  Grammar.OperandOf expression.token expression ∧ leaf expression.token

/-- A declaration is made of well-formed names and of a well-formed value, if there is one. -/
def Declaration.WellFormed (declared : Declaration) : Prop :=
  declared.identifier.WellFormed leaf ∧ declared.typeName.WellFormed leaf ∧
    ∀ value ∈ declared.value, value.WellFormed leaf

mutual

/-- All parts of a statement are well-formed. -/
def Statement.WellFormed : Statement → Prop
  | .expression operand => operand.WellFormed leaf
  | .conditional condition whenTrue whenFalse =>
    condition.WellFormed leaf ∧ Statement.WellFormedIn whenTrue ∧ Statement.WellFormedIn whenFalse
  | .declaration declared => declared.WellFormed leaf

/-- All of the statements are well-formed. -/
def Statement.WellFormedIn : List Statement → Prop
  | [] => True
  | statement :: statements => statement.WellFormed ∧ Statement.WellFormedIn statements

end

/-- All parts of a function are well-formed. -/
def Function.WellFormed (definition : Function) : Prop :=
  definition.identifier.WellFormed leaf ∧
    (∀ argument ∈ definition.arguments, argument.WellFormed leaf) ∧
    (∀ returnType ∈ definition.returnType, returnType.WellFormed leaf) ∧
    Statement.WellFormedIn leaf definition.body

/-- A part of a program is well-formed: names are identifiers, operands are of the kind of their
expressions, and all their tokens are leaves. -/
def TopLevel.WellFormed : TopLevel → Prop
  | .function definition => definition.WellFormed leaf
  | .statement content => content.WellFormed leaf

end WellFormed

end VinylSyntax
