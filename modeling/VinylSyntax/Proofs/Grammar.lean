import VinylSyntax.Limits
import VinylSyntax.Tree

/-!
# The grammar of programs

Which tokens make up a program, and the tree that they are read as. `ProgramOf tokens parts` says
that `tokens`, comments aside, derive from the rule `program`, with `parts` as the tree of the
derivation:

```text
program      := (function | statement)*
function     := 'def' IDENT '(' (argument (',' argument)*)? ')' IDENT? block
argument     := IDENT IDENT
block        := '{' statement* '}'
statement    := declaration | conditional | ';' | operand ';'
declaration  := 'let' IDENT IDENT ('=' operand)?
conditional  := 'if' operand block ('else' block)?
operand      := IDENT | INTEGER | FLOAT
```

The grammar itself knows no limits. How deep conditionals are nested and how many arguments
functions have is read off the tree: see `Statement.depths` and `TopLevel.WithinLimits`.
-/

namespace VinylSyntax

namespace Grammar

/-- A token is an operand, and what expression it is. -/
inductive OperandOf : Token → Expression → Prop where
  | identifier {token : Token} (hkind : token.kind = .identifier) :
      OperandOf token (.identifier ⟨token⟩)
  | integer {token : Token} {literal : IntegerLiteral} (hkind : token.kind = .integer literal) :
      OperandOf token (.integer token)
  | float {token : Token} {literal : FloatLiteral} (hkind : token.kind = .float literal) :
      OperandOf token (.float token)

/-- Tokens are an argument: its name and its type. -/
inductive ArgumentOf : List Token → Argument → Prop where
  | intro {name type : Token} (hname : name.kind = .identifier) (htype : type.kind = .identifier) :
      ArgumentOf [name, type] ⟨⟨name⟩, ⟨type⟩⟩

/-- Tokens are one or more arguments, with commas between them. -/
inductive ArgumentListOf : List Token → List Argument → Prop where
  | last {tokens : List Token} {argument : Argument} (hargument : ArgumentOf tokens argument) :
      ArgumentListOf tokens [argument]
  | more {tokens rest : List Token} {comma : Token} {argument : Argument}
      {arguments : List Argument} (hargument : ArgumentOf tokens argument)
      (hcomma : comma.kind = .symbol .comma) (hrest : ArgumentListOf rest arguments) :
      ArgumentListOf (tokens ++ comma :: rest) (argument :: arguments)

/-- Tokens are the arguments of a function, of which there may be none. -/
inductive ArgumentsOf : List Token → List Argument → Prop where
  | none : ArgumentsOf [] []
  | some {tokens : List Token} {arguments : List Argument}
      (hlist : ArgumentListOf tokens arguments) : ArgumentsOf tokens arguments

/-- Tokens are the type that a function returns, which may be missing. -/
inductive ReturnTypeOf : List Token → Option TypeName → Prop where
  | none : ReturnTypeOf [] none
  | some {type : Token} (htype : type.kind = .identifier) : ReturnTypeOf [type] (some ⟨type⟩)

/-- Tokens are the value of a declared variable, which may be missing. -/
inductive ValueOf : List Token → Option Expression → Prop where
  | none : ValueOf [] none
  | some {equal operand : Token} {value : Expression} (hequal : equal.kind = .symbol .equal)
      (hoperand : OperandOf operand value) : ValueOf [equal, operand] (some value)

/-- Tokens are the declaration of a variable. -/
inductive DeclarationOf : List Token → Declaration → Prop where
  | intro {word name type : Token} {rest : List Token} {value : Option Expression}
      (hword : word.kind = .keyword .letWord) (hname : name.kind = .identifier)
      (htype : type.kind = .identifier) (hvalue : ValueOf rest value) :
      DeclarationOf (word :: name :: type :: rest) ⟨⟨name⟩, ⟨type⟩, value⟩

mutual

/-- Tokens are a statement; an empty one has no tree. -/
inductive StatementOf : List Token → Option Statement → Prop where
  | empty {semicolon : Token} (hsemicolon : semicolon.kind = .symbol .semicolon) :
      StatementOf [semicolon] none
  | expression {operand semicolon : Token} {expression : Expression}
      (hoperand : OperandOf operand expression)
      (hsemicolon : semicolon.kind = .symbol .semicolon) :
      StatementOf [operand, semicolon] (some (.expression expression))
  | declaration {tokens : List Token} {declared : Declaration}
      (hdeclared : DeclarationOf tokens declared) :
      StatementOf tokens (some (.declaration declared))
  | conditional {tokens : List Token} {statement : Statement}
      (hconditional : ConditionalOf tokens statement) : StatementOf tokens (some statement)

/-- Tokens are a conditional. -/
inductive ConditionalOf : List Token → Statement → Prop where
  | intro {word operand : Token} {block rest : List Token} {condition : Expression}
      {whenTrue whenFalse : List Statement} (hword : word.kind = .keyword .ifWord)
      (hoperand : OperandOf operand condition) (hblock : BlockOf block whenTrue)
      (hrest : AlternativeOf rest whenFalse) :
      ConditionalOf (word :: operand :: (block ++ rest))
        (.conditional condition whenTrue whenFalse)

/-- Tokens are the second branch of a conditional. A missing branch is read as an empty one. -/
inductive AlternativeOf : List Token → List Statement → Prop where
  | none : AlternativeOf [] []
  | some {word : Token} {block : List Token} {statements : List Statement}
      (hword : word.kind = .keyword .elseWord) (hblock : BlockOf block statements) :
      AlternativeOf (word :: block) statements

/-- Tokens are a block: statements in braces. -/
inductive BlockOf : List Token → List Statement → Prop where
  | intro {opening closing : Token} {inner : List Token} {statements : List Statement}
      (hopening : opening.kind = .symbol .braceOpen) (hinner : StatementsOf inner statements)
      (hclosing : closing.kind = .symbol .braceClose) :
      BlockOf (opening :: (inner ++ [closing])) statements

/-- Tokens are statements, one behind the other; of the empty ones nothing remains. -/
inductive StatementsOf : List Token → List Statement → Prop where
  | nil : StatementsOf [] []
  | cons {tokens rest : List Token} {statement : Option Statement} {statements : List Statement}
      (hstatement : StatementOf tokens statement) (hrest : StatementsOf rest statements) :
      StatementsOf (tokens ++ rest) (statement.toList ++ statements)

end

/-- Tokens are the definition of a function. -/
inductive FunctionOf : List Token → Function → Prop where
  | intro {word name opening closing : Token} {middle type block : List Token}
      {arguments : List Argument} {returnType : Option TypeName} {body : List Statement}
      (hword : word.kind = .keyword .defWord) (hname : name.kind = .identifier)
      (hopening : opening.kind = .symbol .parenOpen) (harguments : ArgumentsOf middle arguments)
      (hclosing : closing.kind = .symbol .parenClose) (htype : ReturnTypeOf type returnType)
      (hblock : BlockOf block body) :
      FunctionOf (word :: name :: opening :: (middle ++ closing :: (type ++ block)))
        ⟨⟨name⟩, arguments, returnType, body⟩

/-- Tokens are a function or a statement. -/
inductive TopLevelOf : List Token → Option TopLevel → Prop where
  | function {tokens : List Token} {definition : Function}
      (hfunction : FunctionOf tokens definition) : TopLevelOf tokens (some (.function definition))
  | statement {tokens : List Token} {content : Option Statement}
      (hstatement : StatementOf tokens content) : TopLevelOf tokens (content.map .statement)

/-- Tokens are a program. -/
inductive ProgramOf : List Token → List TopLevel → Prop where
  | nil : ProgramOf [] []
  | cons {tokens rest : List Token} {part : Option TopLevel} {parts : List TopLevel}
      (hpart : TopLevelOf tokens part) (hrest : ProgramOf rest parts) :
      ProgramOf (tokens ++ rest) (part.toList ++ parts)

/-- Tokens are viable if a program begins with them. -/
def Viable (tokens : List Token) : Prop := ∃ rest parts, ProgramOf (tokens ++ rest) parts

end Grammar

/-! ## Limits -/

mutual

/-- For each conditional of a statement that lies in `outer` conditionals, in the order of their
`if`s: the number of conditionals that it lies in. -/
def Statement.depths (outer : Nat) : Statement → List Nat
  | .expression _ | .declaration _ => []
  | .conditional _ whenTrue whenFalse =>
    outer :: (Statement.depthsIn (outer + 1) whenTrue ++ Statement.depthsIn (outer + 1) whenFalse)

/-- The depths of the conditionals of several statements. -/
def Statement.depthsIn (outer : Nat) : List Statement → List Nat
  | [] => []
  | statement :: statements => statement.depths outer ++ Statement.depthsIn outer statements

end

/-- The depths of the conditionals of a statement, if it is not empty. -/
def Statement.depthsOf (outer : Nat) (statement : Option Statement) : List Nat :=
  Statement.depthsIn outer statement.toList

namespace TopLevel

/-- The depths of the conditionals of a part of a program. -/
def depths : TopLevel → List Nat
  | .function definition => Statement.depthsIn 0 definition.body
  | .statement content => content.depths 0

/-- The depths of the conditionals of a program. -/
def depthsIn (parts : List TopLevel) : List Nat := parts.flatMap depths

/-- The number of arguments of a part of a program. -/
def arity : TopLevel → Nat
  | .function definition => definition.arguments.length
  | .statement _ => 0

/-- Conditionals are nested no deeper than allowed, and functions have no more arguments than
allowed. A conditional that lies in `depth` others is nested `depth + 1` deep. -/
def WithinLimits (parts : List TopLevel) : Prop :=
  (∀ depth ∈ depthsIn parts, depth + 1 ≤ Limits.nestingDepth) ∧
    ∀ part ∈ parts, part.arity ≤ Limits.argumentCount

end TopLevel

end VinylSyntax
