import VinylSyntax.Proofs.Printing

/-!
# Trees that are read

The tree of a derivation is well-formed, and its leaves are among the tokens that were read: what
holds of all of these holds of the leaves. See `Grammar.ProgramOf.wellFormed`.
-/

namespace VinylSyntax

namespace Grammar

variable {leaf : Token → Prop} {tokens : List Token}

/-- The expression of an operand is well formed if the token has the property of leaves. -/
theorem OperandOf.wellFormed {token : Token} {expression : Expression}
    (h : OperandOf token expression) (hleaf : leaf token) : expression.WellFormed leaf := by
  have htoken : expression.token = token := by cases h <;> rfl
  exact ⟨htoken.symm ▸ h, htoken.symm ▸ hleaf⟩

/-- An argument is well formed if its tokens have the property of leaves. -/
theorem ArgumentOf.wellFormed {argument : Argument} (h : ArgumentOf tokens argument)
    (hleaf : ∀ token ∈ tokens, leaf token) : argument.WellFormed leaf := by
  obtain ⟨hname, htype⟩ := h
  obtain ⟨hfirst, hrest⟩ := List.forall_mem_cons.1 hleaf
  exact ⟨⟨hname, hfirst⟩, htype, List.forall_mem_singleton.1 hrest⟩

/-- The arguments of a list are well formed if its tokens have the property of leaves. -/
theorem ArgumentListOf.wellFormed {arguments : List Argument} (h : ArgumentListOf tokens arguments)
    (hleaf : ∀ token ∈ tokens, leaf token) : ∀ argument ∈ arguments, argument.WellFormed leaf := by
  induction h with
  | last hargument => exact List.forall_mem_singleton.2 (hargument.wellFormed hleaf)
  | more hargument _ _ ih =>
    obtain ⟨hfirst, hrest⟩ := List.forall_mem_append.1 hleaf
    exact List.forall_mem_cons.2
      ⟨hargument.wellFormed hfirst, ih (List.forall_mem_cons.1 hrest).2⟩

/-- The arguments of a function are well formed if their tokens have the property of leaves. -/
theorem ArgumentsOf.wellFormed {arguments : List Argument} (h : ArgumentsOf tokens arguments)
    (hleaf : ∀ token ∈ tokens, leaf token) : ∀ argument ∈ arguments, argument.WellFormed leaf := by
  cases h with
  | none => exact List.forall_mem_nil _
  | some hlist => exact hlist.wellFormed hleaf

/-- A return type is well formed if its tokens have the property of leaves. -/
theorem ReturnTypeOf.wellFormed {returnType : Option TypeName} (h : ReturnTypeOf tokens returnType)
    (hleaf : ∀ token ∈ tokens, leaf token) : ∀ type ∈ returnType, type.WellFormed leaf := by
  cases h with
  | none => exact fun _ htype => nomatch htype
  | some hkind =>
    rintro _ ⟨⟩
    exact ⟨hkind, List.forall_mem_singleton.1 hleaf⟩

/-- The value of a declaration is well formed if its tokens have the property of leaves. -/
theorem ValueOf.wellFormed {value : Option Expression} (h : ValueOf tokens value)
    (hleaf : ∀ token ∈ tokens, leaf token) :
    ∀ expression ∈ value, expression.WellFormed leaf := by
  cases h with
  | none => exact fun _ hvalue => nomatch hvalue
  | some _ hoperand =>
    rintro _ ⟨⟩
    exact hoperand.wellFormed (hleaf _ (by simp))

/-- A declaration is well formed if its tokens have the property of leaves. -/
theorem DeclarationOf.wellFormed {declared : Declaration} (h : DeclarationOf tokens declared)
    (hleaf : ∀ token ∈ tokens, leaf token) : declared.WellFormed leaf := by
  obtain ⟨-, hname, htype, hvalue⟩ := h
  simp only [List.forall_mem_cons] at hleaf
  obtain ⟨-, hnameLeaf, htypeLeaf, hrest⟩ := hleaf
  exact ⟨⟨hname, hnameLeaf⟩, ⟨htype, htypeLeaf⟩, hvalue.wellFormed hrest⟩

/-- Statements are well-formed if each of them is. -/
theorem wellFormedIn_iff {statements : List Statement} :
    Statement.WellFormedIn leaf statements ↔
      ∀ statement ∈ statements, statement.WellFormed leaf := by
  induction statements with
  | nil => simp [Statement.WellFormedIn]
  | cons statement statements ih => rw [Statement.WellFormedIn, ih, List.forall_mem_cons]

mutual

/-- A statement is well formed if its tokens have the property of leaves. -/
theorem StatementOf.wellFormed {tokens : List Token} {content : Option Statement} :
    StatementOf tokens content → (∀ token ∈ tokens, leaf token) →
      ∀ statement ∈ content, statement.WellFormed leaf
  | .empty _, _ => fun _ hstatement => nomatch hstatement
  | .expression hoperand _, hleaf => by
    rintro _ ⟨⟩
    exact hoperand.wellFormed (hleaf _ (by simp))
  | .declaration hdeclared, hleaf => by
    rintro _ ⟨⟩
    exact hdeclared.wellFormed hleaf
  | .conditional hconditional, hleaf => by
    rintro _ ⟨⟩
    exact hconditional.wellFormed hleaf

/-- A conditional is well formed if its tokens have the property of leaves. -/
theorem ConditionalOf.wellFormed {tokens : List Token} {statement : Statement} :
    ConditionalOf tokens statement → (∀ token ∈ tokens, leaf token) → statement.WellFormed leaf
  | .intro _ hoperand hblock hrest, hleaf => by
    simp only [List.forall_mem_cons, List.forall_mem_append] at hleaf
    obtain ⟨-, hcondition, hfirst, hsecond⟩ := hleaf
    exact ⟨hoperand.wellFormed hcondition, hblock.wellFormed hfirst, hrest.wellFormed hsecond⟩

/-- The statements of an alternative are well formed if its tokens have the property of leaves. -/
theorem AlternativeOf.wellFormed {tokens : List Token} {statements : List Statement} :
    AlternativeOf tokens statements → (∀ token ∈ tokens, leaf token) →
      Statement.WellFormedIn leaf statements
  | .none, _ => trivial
  | .some _ hblock, hleaf => hblock.wellFormed (List.forall_mem_cons.1 hleaf).2

/-- The statements of a block are well formed if its tokens have the property of leaves. -/
theorem BlockOf.wellFormed {tokens : List Token} {statements : List Statement} :
    BlockOf tokens statements → (∀ token ∈ tokens, leaf token) →
      Statement.WellFormedIn leaf statements
  | .intro _ hinner _, hleaf =>
    hinner.wellFormed (List.forall_mem_append.1 (List.forall_mem_cons.1 hleaf).2).1

/-- Statements are well formed if their tokens have the property of leaves. -/
theorem StatementsOf.wellFormed {tokens : List Token} {statements : List Statement} :
    StatementsOf tokens statements → (∀ token ∈ tokens, leaf token) →
      Statement.WellFormedIn leaf statements
  | .nil, _ => trivial
  | .cons hstatement hrest, hleaf => by
    obtain ⟨hfirst, hlater⟩ := List.forall_mem_append.1 hleaf
    refine wellFormedIn_iff.2 (List.forall_mem_append.2 ⟨fun statement hmem => ?_, ?_⟩)
    · exact hstatement.wellFormed hfirst statement (Option.mem_toList.1 hmem)
    · exact wellFormedIn_iff.1 (hrest.wellFormed hlater)

end

/-- A function is well formed if its tokens have the property of leaves. -/
theorem FunctionOf.wellFormed {definition : Function} (h : FunctionOf tokens definition)
    (hleaf : ∀ token ∈ tokens, leaf token) : definition.WellFormed leaf := by
  obtain ⟨-, hname, -, harguments, -, htype, hblock⟩ := h
  simp only [List.forall_mem_cons, List.forall_mem_append] at hleaf
  obtain ⟨-, hnameLeaf, -, hmiddle, -, htypeLeaf, hbody⟩ := hleaf
  exact ⟨⟨hname, hnameLeaf⟩, harguments.wellFormed hmiddle, htype.wellFormed htypeLeaf,
    hblock.wellFormed hbody⟩

/-- A part of a program is well formed if its tokens have the property of leaves. -/
theorem TopLevelOf.wellFormed {content : Option TopLevel} (h : TopLevelOf tokens content)
    (hleaf : ∀ token ∈ tokens, leaf token) : ∀ part ∈ content, part.WellFormed leaf := by
  cases h with
  | function hfunction =>
    rintro _ ⟨⟩
    exact hfunction.wellFormed hleaf
  | @statement content hstatement =>
    cases content with
    | none => exact fun _ hpart => nomatch hpart
    | some statement =>
      rintro _ ⟨⟩
      exact hstatement.wellFormed hleaf statement rfl

/-- The tree of a program is well-formed, with the tokens of the program for its leaves. -/
theorem ProgramOf.wellFormed {parts : List TopLevel} (h : ProgramOf tokens parts)
    (hleaf : ∀ token ∈ tokens, leaf token) : ∀ part ∈ parts, part.WellFormed leaf := by
  induction h with
  | nil => exact List.forall_mem_nil _
  | cons hpart _ ih =>
    obtain ⟨hfirst, hrest⟩ := List.forall_mem_append.1 hleaf
    refine List.forall_mem_append.2 ⟨fun part hmem => ?_, ih hrest⟩
    exact hpart.wellFormed hfirst part (Option.mem_toList.1 hmem)

end Grammar

end VinylSyntax
