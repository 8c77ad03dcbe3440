import VinylSyntax.Proofs.Grammar

/-!
# Trees with other leaves

`mapTokens` puts other tokens in the place of the leaves of a tree. If these are of the same kinds,
the grammar does not notice: a derivation turns into one of the other tokens, and its tree into the
tree with the other leaves. See `Grammar.ProgramOf.mapTokens`.
-/

namespace VinylSyntax

/-! ## Trees -/

section mapTokens

variable (change : Token → Token)

/-- The name with its token changed. -/
def Identifier.mapTokens (identifier : Identifier) : Identifier := ⟨change identifier.token⟩

/-- The type name with its token changed. -/
def TypeName.mapTokens (typeName : TypeName) : TypeName := ⟨change typeName.token⟩

/-- The argument with its tokens changed. -/
def Argument.mapTokens (argument : Argument) : Argument :=
  ⟨argument.identifier.mapTokens change, argument.typeName.mapTokens change⟩

/-- The expression with its token changed. -/
def Expression.mapTokens : Expression → Expression
  | .identifier name => .identifier (name.mapTokens change)
  | .integer token => .integer (change token)
  | .float token => .float (change token)

/-- The declaration with its tokens changed. -/
def Declaration.mapTokens (declared : Declaration) : Declaration :=
  ⟨declared.identifier.mapTokens change, declared.typeName.mapTokens change,
    declared.value.map (Expression.mapTokens change)⟩

mutual

/-- The statement with its tokens changed. -/
def Statement.mapTokens : Statement → Statement
  | .expression operand => .expression (operand.mapTokens change)
  | .conditional condition whenTrue whenFalse =>
    .conditional (condition.mapTokens change) (Statement.mapTokensIn whenTrue)
      (Statement.mapTokensIn whenFalse)
  | .declaration declared => .declaration (declared.mapTokens change)

/-- Statements with their tokens changed. -/
def Statement.mapTokensIn : List Statement → List Statement
  | [] => []
  | statement :: statements => statement.mapTokens :: Statement.mapTokensIn statements

end

/-- The function with its tokens changed. -/
def Function.mapTokens (definition : Function) : Function :=
  ⟨definition.identifier.mapTokens change, definition.arguments.map (Argument.mapTokens change),
    definition.returnType.map (TypeName.mapTokens change),
    Statement.mapTokensIn change definition.body⟩

/-- The part of a program with its tokens changed. -/
def TopLevel.mapTokens : TopLevel → TopLevel
  | .function definition => .function (definition.mapTokens change)
  | .statement content => .statement (content.mapTokens change)

end mapTokens

variable {change : Token → Token}

/-- The tokens of statements are changed in one statement after the other. -/
theorem Statement.mapTokensIn_eq (statements : List Statement) :
    Statement.mapTokensIn change statements = statements.map (Statement.mapTokens change) := by
  induction statements with
  | nil => rfl
  | cons statement statements ih => rw [Statement.mapTokensIn, ih, List.map_cons]

/-! ## Derivations -/

/-- Every token is changed to one of the same kind. -/
def KeepsKind (change : Token → Token) : Prop := ∀ token, (change token).kind = token.kind

namespace Grammar

/-- With its token changed, an operand is derived as the changed expression. -/
theorem OperandOf.mapTokens {token : Token} {expression : Expression}
    (hkind : KeepsKind change) (h : OperandOf token expression) :
    OperandOf (change token) (expression.mapTokens change) := by
  cases h with
  | identifier htoken => exact .identifier ((hkind _).trans htoken)
  | integer htoken => exact .integer ((hkind _).trans htoken)
  | float htoken => exact .float ((hkind _).trans htoken)

/-- With their tokens changed, the tokens of an argument are derived as the changed argument. -/
theorem ArgumentOf.mapTokens {tokens : List Token} {argument : Argument}
    (hkind : KeepsKind change) (h : ArgumentOf tokens argument) :
    ArgumentOf (tokens.map change) (argument.mapTokens change) := by
  obtain ⟨hname, htype⟩ := h
  exact .intro ((hkind _).trans hname) ((hkind _).trans htype)

/-- With its tokens changed, a list of arguments is derived as the changed arguments. -/
theorem ArgumentListOf.mapTokens {tokens : List Token} {arguments : List Argument}
    (hkind : KeepsKind change) (h : ArgumentListOf tokens arguments) :
    ArgumentListOf (tokens.map change) (arguments.map (Argument.mapTokens change)) := by
  induction h with
  | last hargument => exact .last (hargument.mapTokens hkind)
  | more hargument hcomma _ ih =>
    rw [List.map_append, List.map_cons, List.map_cons]
    exact .more (hargument.mapTokens hkind) ((hkind _).trans hcomma) ih

/-- With their tokens changed, arguments in parentheses are derived as the changed arguments. -/
theorem ArgumentsOf.mapTokens {tokens : List Token} {arguments : List Argument}
    (hkind : KeepsKind change) (h : ArgumentsOf tokens arguments) :
    ArgumentsOf (tokens.map change) (arguments.map (Argument.mapTokens change)) := by
  cases h with
  | none => exact .none
  | some hlist => exact .some (hlist.mapTokens hkind)

/-- With its tokens changed, a return type is derived as the changed one. -/
theorem ReturnTypeOf.mapTokens {tokens : List Token} {returnType : Option TypeName}
    (hkind : KeepsKind change) (h : ReturnTypeOf tokens returnType) :
    ReturnTypeOf (tokens.map change) (returnType.map (TypeName.mapTokens change)) := by
  cases h with
  | none => exact .none
  | some htype => exact .some ((hkind _).trans htype)

/-- With its tokens changed, the value of a declaration is derived as the changed one. -/
theorem ValueOf.mapTokens {tokens : List Token} {value : Option Expression}
    (hkind : KeepsKind change) (h : ValueOf tokens value) :
    ValueOf (tokens.map change) (value.map (Expression.mapTokens change)) := by
  cases h with
  | none => exact .none
  | some hequal hoperand => exact .some ((hkind _).trans hequal) (hoperand.mapTokens hkind)

/-- With its tokens changed, a declaration is derived as the changed one. -/
theorem DeclarationOf.mapTokens {tokens : List Token} {declared : Declaration}
    (hkind : KeepsKind change) (h : DeclarationOf tokens declared) :
    DeclarationOf (tokens.map change) (declared.mapTokens change) := by
  obtain ⟨hword, hname, htype, hvalue⟩ := h
  exact .intro ((hkind _).trans hword) ((hkind _).trans hname) ((hkind _).trans htype)
    (hvalue.mapTokens hkind)

mutual

/-- With its tokens changed, a statement is derived as the changed one. -/
theorem StatementOf.mapTokens {tokens : List Token} {statement : Option Statement}
    (hkind : KeepsKind change) : StatementOf tokens statement →
    StatementOf (tokens.map change) (statement.map (Statement.mapTokens change))
  | .empty hsemicolon => .empty ((hkind _).trans hsemicolon)
  | .expression hoperand hsemicolon =>
    .expression (hoperand.mapTokens hkind) ((hkind _).trans hsemicolon)
  | .declaration hdeclared => .declaration (hdeclared.mapTokens hkind)
  | .conditional hconditional => .conditional (hconditional.mapTokens hkind)

/-- With its tokens changed, a conditional is derived as the changed one. -/
theorem ConditionalOf.mapTokens {tokens : List Token} {statement : Statement}
    (hkind : KeepsKind change) : ConditionalOf tokens statement →
    ConditionalOf (tokens.map change) (statement.mapTokens change)
  | .intro hword hoperand hblock hrest => by
    rw [List.map_cons, List.map_cons, List.map_append]
    exact .intro ((hkind _).trans hword) (hoperand.mapTokens hkind) (hblock.mapTokens hkind)
      (hrest.mapTokens hkind)

/-- With its tokens changed, an alternative is derived as the changed statements. -/
theorem AlternativeOf.mapTokens {tokens : List Token} {statements : List Statement}
    (hkind : KeepsKind change) : AlternativeOf tokens statements →
    AlternativeOf (tokens.map change) (Statement.mapTokensIn change statements)
  | .none => .none
  | .some hword hblock => .some ((hkind _).trans hword) (hblock.mapTokens hkind)

/-- With its tokens changed, a block is derived as the changed statements. -/
theorem BlockOf.mapTokens {tokens : List Token} {statements : List Statement}
    (hkind : KeepsKind change) : BlockOf tokens statements →
    BlockOf (tokens.map change) (Statement.mapTokensIn change statements)
  | .intro hopening hinner hclosing => by
    rw [List.map_cons, List.map_append]
    exact .intro ((hkind _).trans hopening) (hinner.mapTokens hkind) ((hkind _).trans hclosing)

/-- With their tokens changed, statements are derived as the changed ones. -/
theorem StatementsOf.mapTokens {tokens : List Token} {statements : List Statement}
    (hkind : KeepsKind change) : StatementsOf tokens statements →
    StatementsOf (tokens.map change) (Statement.mapTokensIn change statements)
  | .nil => .nil
  | .cons hstatement hrest => by
    have hstatements := StatementsOf.cons (hstatement.mapTokens hkind) (hrest.mapTokens hkind)
    rw [Statement.mapTokensIn_eq] at hstatements ⊢
    rw [List.map_append, List.map_append, ← Option.toList_map]
    exact hstatements

end

/-- With its tokens changed, a function is derived as the changed one. -/
theorem FunctionOf.mapTokens {tokens : List Token} {definition : Function}
    (hkind : KeepsKind change) (h : FunctionOf tokens definition) :
    FunctionOf (tokens.map change) (definition.mapTokens change) := by
  obtain ⟨hword, hname, hopening, harguments, hclosing, htype, hblock⟩ := h
  simp only [List.map_cons, List.map_append]
  exact .intro ((hkind _).trans hword) ((hkind _).trans hname) ((hkind _).trans hopening)
    (harguments.mapTokens hkind) ((hkind _).trans hclosing) (htype.mapTokens hkind)
    (hblock.mapTokens hkind)

/-- With its tokens changed, a part of a program is derived as the changed one. -/
theorem TopLevelOf.mapTokens {tokens : List Token} {part : Option TopLevel}
    (hkind : KeepsKind change) (h : TopLevelOf tokens part) :
    TopLevelOf (tokens.map change) (part.map (TopLevel.mapTokens change)) := by
  cases h with
  | function hfunction => exact .function (hfunction.mapTokens hkind)
  | @statement content hstatement =>
    have hcontent := TopLevelOf.statement (hstatement.mapTokens hkind)
    cases content <;> exact hcontent

/-- With tokens of the same kinds in their places, the tokens of a program are a program, and its
tree has these tokens in the places of its leaves. -/
theorem ProgramOf.mapTokens {tokens : List Token} {parts : List TopLevel}
    (hkind : KeepsKind change) (h : ProgramOf tokens parts) :
    ProgramOf (tokens.map change) (parts.map (TopLevel.mapTokens change)) := by
  induction h with
  | nil => exact .nil
  | cons hpart _ ih =>
    rw [List.map_append, List.map_append, ← Option.toList_map]
    exact .cons (hpart.mapTokens hkind) ih

/-- One program behind another is a program. -/
theorem ProgramOf.append {front back : List Token} {parts others : List TopLevel}
    (h : ProgramOf front parts) (hback : ProgramOf back others) :
    ProgramOf (front ++ back) (parts ++ others) := by
  induction h with
  | nil => exact hback
  | cons hpart _ ih =>
    rw [List.append_assoc, List.append_assoc]
    exact .cons hpart ih

end Grammar

/-! ## Limits -/

mutual

/-- Changing tokens leaves the depths within a statement as they are. -/
theorem Statement.depths_mapTokens (outer : Nat) (statement : Statement) :
    (statement.mapTokens change).depths outer = statement.depths outer := by
  match statement with
  | .expression operand => rfl
  | .declaration declared => rfl
  | .conditional condition whenTrue whenFalse =>
    simp only [Statement.mapTokens, Statement.depths]
    rw [Statement.depthsIn_mapTokensIn (outer + 1) whenTrue,
      Statement.depthsIn_mapTokensIn (outer + 1) whenFalse]

/-- Changing tokens leaves the depths within statements as they are. -/
theorem Statement.depthsIn_mapTokensIn (outer : Nat) (statements : List Statement) :
    Statement.depthsIn outer (Statement.mapTokensIn change statements) =
      Statement.depthsIn outer statements := by
  match statements with
  | [] => rfl
  | statement :: statements =>
    simp only [Statement.mapTokensIn, Statement.depthsIn]
    rw [Statement.depths_mapTokens outer statement,
      Statement.depthsIn_mapTokensIn outer statements]

end

namespace TopLevel

/-- Changing tokens leaves the depths within a part of a program as they are. -/
theorem depths_mapTokens (part : TopLevel) : (part.mapTokens change).depths = part.depths := by
  cases part with
  | function definition => exact Statement.depthsIn_mapTokensIn 0 definition.body
  | statement content => exact Statement.depths_mapTokens 0 content

/-- Changing tokens leaves the number of arguments as it is. -/
theorem arity_mapTokens (part : TopLevel) : (part.mapTokens change).arity = part.arity := by
  cases part with
  | function definition => exact List.length_map _
  | statement content => rfl

/-- Limits do not depend on the leaves. -/
theorem withinLimits_mapTokens {parts : List TopLevel} :
    WithinLimits (parts.map (TopLevel.mapTokens change)) ↔ WithinLimits parts := by
  simp only [WithinLimits, depthsIn, List.flatMap_map, depths_mapTokens, List.forall_mem_map,
    arity_mapTokens]

end TopLevel

end VinylSyntax
