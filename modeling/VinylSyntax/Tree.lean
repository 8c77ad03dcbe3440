import VinylSyntax.Token.Basic

/-!
# Syntax trees

What a program is made of. The leaves of a tree are the tokens that it was read from, so that every
part knows its place in the source.
-/

namespace VinylSyntax

/-- A name. -/
structure Identifier where
  token : Token
deriving DecidableEq, Inhabited

/-- A name as it is spelled. -/
def Identifier.name (identifier : Identifier) : String := identifier.token.text

/-- The place of a name. -/
def Identifier.span (identifier : Identifier) : Span := identifier.token.span

/-- The name of a type, which is any identifier. -/
structure TypeName where
  token : Token
deriving DecidableEq, Inhabited

/-- A type name as it is spelled. -/
def TypeName.name (typeName : TypeName) : String := typeName.token.text

/-- The place of a type name. -/
def TypeName.span (typeName : TypeName) : Span := typeName.token.span

/-- An argument of a function. -/
structure Argument where
  identifier : Identifier
  typeName : TypeName
deriving DecidableEq, Inhabited

/-- The place of an argument, name and type together. -/
def Argument.span (argument : Argument) : Span :=
  argument.identifier.span.merge argument.typeName.span

/-- An expression, which is a single operand. -/
inductive Expression where
  | identifier (name : Identifier)
  | integer (token : Token)
  | float (token : Token)
deriving DecidableEq, Inhabited

namespace Expression

/-- Whether a token is an operand. -/
def isOperand (token : Token) : Bool :=
  match token.kind with
  | .identifier | .integer _ | .float _ => true
  | _ => false

/-- The expression that an operand is. -/
def ofOperand (token : Token) : Expression :=
  match token.kind with
  | .integer _ => .integer token
  | .float _ => .float token
  | _ => .identifier ⟨token⟩

/-- The token of an expression. -/
def token : Expression → Token
  | .identifier name => name.token
  | .integer token => token
  | .float token => token

/-- The place of an expression. -/
def span (expression : Expression) : Span := expression.token.span

/-- The expression made of a token holds that token. -/
@[simp] theorem token_ofOperand (token : Token) : (ofOperand token).token = token := by
  unfold ofOperand
  split <;> rfl

end Expression

/-- The declaration of a variable, with or without a value. -/
structure Declaration where
  identifier : Identifier
  typeName : TypeName
  value : Option Expression
deriving DecidableEq, Inhabited

/-- A statement. Of a conditional without `else`, the second branch is empty. -/
inductive Statement where
  | expression (operand : Expression)
  | conditional (condition : Expression) (whenTrue whenFalse : List Statement)
  | declaration (declared : Declaration)
deriving Inhabited

/-- The definition of a function. -/
structure Function where
  identifier : Identifier
  arguments : List Argument
  returnType : Option TypeName
  body : List Statement
deriving Inhabited

/-- What stands at the top of a program. -/
inductive TopLevel where
  | function (definition : Function)
  | statement (content : Statement)
deriving Inhabited

namespace TopLevel

/-- The line that sums up a part of a program: its place, what it is, and the size of it. -/
def summary : TopLevel → String
  | .function definition =>
    s!"{definition.identifier.span.start.render} function {definition.identifier.name} " ++
      s!"({definition.arguments.length} arguments, {definition.body.length} statements)"
  | .statement (.declaration declared) =>
    s!"{declared.identifier.span.start.render} variable {declared.identifier.name} " ++
      declared.typeName.name
  | .statement (.conditional condition whenTrue whenFalse) =>
    s!"{condition.span.start.render} if ({whenTrue.length} / {whenFalse.length} statements)"
  | .statement (.expression operand) =>
    s!"{operand.span.start.render} expression {operand.token.render}"

end TopLevel

end VinylSyntax
