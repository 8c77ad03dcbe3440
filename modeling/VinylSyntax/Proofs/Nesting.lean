import VinylSyntax.Proofs.Grammar

/-!
# Nesting of conditionals

How deep a conditional lies in others can be told from the tokens in front of its `if` alone.
`nesting` reads the depths off the tokens from left to right, with a stack of the braces that are
open, and `ProgramOf.depthsIn_eq` says that these are the depths in the tree. So the `if` that
breaks the limit can be pointed at in the middle of a program, whatever follows it.
-/

namespace VinylSyntax

/-- For each `if` among the tokens, the number of conditionals in a branch of which it stands.
`braces` says of the braces that are open, innermost first, whether they are around a branch, and
`branch` whether the next one is. -/
def nesting (braces : List Bool) (branch : Bool) : List Token → List Nat
  | [] => []
  | token :: tokens =>
    match token.kind with
    | .keyword .ifWord => braces.count true :: nesting braces true tokens
    | .keyword .elseWord => nesting braces true tokens
    | .symbol .braceOpen => nesting (branch :: braces) false tokens
    | .symbol .braceClose => nesting braces.tail false tokens
    | _ => nesting braces branch tokens

section nesting

variable {token : Token} (braces : List Bool) (branch : Bool) (tokens : List Token)

/-- Without tokens there are no conditionals. -/
@[simp] theorem nesting_nil : nesting braces branch [] = [] := rfl

/-- An `if` lies in as many conditionals as there are open branches, and a branch follows it. -/
theorem nesting_if (h : token.kind = .keyword .ifWord) :
    nesting braces branch (token :: tokens) = braces.count true :: nesting braces true tokens := by
  rw [nesting, h]

/-- A branch follows an `else`. -/
theorem nesting_else (h : token.kind = .keyword .elseWord) :
    nesting braces branch (token :: tokens) = nesting braces true tokens := by
  rw [nesting, h]

/-- A brace opens a branch if one is to follow, and another block if not. -/
theorem nesting_open (h : token.kind = .symbol .braceOpen) :
    nesting braces branch (token :: tokens) = nesting (branch :: braces) false tokens := by
  rw [nesting, h]

/-- A brace closes the innermost block. -/
theorem nesting_close (h : token.kind = .symbol .braceClose) :
    nesting braces branch (token :: tokens) = nesting braces.tail false tokens := by
  rw [nesting, h]

/-- A token has nothing to do with the nesting of conditionals. -/
def Token.Plain (token : Token) : Prop :=
  token.kind ≠ .keyword .ifWord ∧ token.kind ≠ .keyword .elseWord ∧
    token.kind ≠ .symbol .braceOpen ∧ token.kind ≠ .symbol .braceClose

/-- Whether a token does not nest is decided by its kind. -/
instance (token : Token) : Decidable token.Plain :=
  inferInstanceAs (Decidable (_ ∧ _ ∧ _ ∧ _))

/-- A token that does not nest changes nothing. -/
theorem nesting_plain (h : token.Plain) :
    nesting braces branch (token :: tokens) = nesting braces branch tokens := by
  obtain ⟨hif, helse, hopen, hclose⟩ := h
  rw [nesting]
  split
  · contradiction
  · contradiction
  · contradiction
  · contradiction
  · rfl

/-- Tokens that do not nest change nothing. -/
theorem nesting_plain_append {front : List Token} (h : ∀ token ∈ front, token.Plain) :
    nesting braces branch (front ++ tokens) = nesting braces branch tokens := by
  induction front with
  | nil => rfl
  | cons token front ih =>
    rw [List.cons_append, nesting_plain _ _ _ (h token (by simp))]
    exact ih fun token htoken => h token (by simp [htoken])

/-- There is one depth for every `if`. -/
theorem length_nesting :
    (nesting braces branch tokens).length = tokens.countP (Token.isKeyword .ifWord) := by
  fun_induction nesting braces branch tokens with
  | case1 => rfl
  | case2 _ _ token tokens hkind ih => simp [Token.isKeyword, hkind, ih]
  | case3 _ _ token tokens hkind ih => simp [Token.isKeyword, hkind, ih]
  | case4 _ _ token tokens hkind ih => simp [Token.isKeyword, hkind, ih]
  | case5 _ _ token tokens hkind ih => simp [Token.isKeyword, hkind, ih]
  | case6 _ _ token tokens hif _ _ _ ih =>
    have hother : token.isKeyword .ifWord = false := by simpa [Token.isKeyword] using hif
    simp [hother, ih]

/-- The depths in front of a place do not depend on what follows. -/
theorem nesting_append (front : List Token) :
    ∃ braces' branch', ∀ back, nesting braces branch (front ++ back) =
      nesting braces branch front ++ nesting braces' branch' back := by
  -- The braces behind `front` are those that the recursion ends with, so they come from its case.
  fun_induction nesting braces branch front with
  | case1 braces branch => exact ⟨braces, branch, fun _ => rfl⟩
  | case2 _ _ token front hkind ih =>
    obtain ⟨braces', branch', h⟩ := ih
    refine ⟨braces', branch', fun back => ?_⟩
    rw [List.cons_append, nesting_if _ _ _ hkind, h, List.cons_append]
  | case3 _ _ token front hkind ih =>
    obtain ⟨braces', branch', h⟩ := ih
    refine ⟨braces', branch', fun back => ?_⟩
    rw [List.cons_append, nesting_else _ _ _ hkind, h]
  | case4 _ _ token front hkind ih =>
    obtain ⟨braces', branch', h⟩ := ih
    refine ⟨braces', branch', fun back => ?_⟩
    rw [List.cons_append, nesting_open _ _ _ hkind, h]
  | case5 _ _ token front hkind ih =>
    obtain ⟨braces', branch', h⟩ := ih
    refine ⟨braces', branch', fun back => ?_⟩
    rw [List.cons_append, nesting_close _ _ _ hkind, h]
  | case6 _ _ token front hif helse hopen hclose ih =>
    obtain ⟨braces', branch', h⟩ := ih
    refine ⟨braces', branch', fun back => ?_⟩
    rw [List.cons_append, nesting_plain _ _ _ ⟨hif, helse, hopen, hclose⟩, h]

end nesting

namespace Grammar

/-- An operand does not nest. -/
theorem OperandOf.plain {token : Token} {expression : Expression} (h : OperandOf token expression) :
    token.Plain := by
  cases h <;> simp_all [Token.Plain]

/-- The tokens of an argument do not nest. -/
theorem ArgumentOf.plain {tokens : List Token} {argument : Argument}
    (h : ArgumentOf tokens argument) : ∀ token ∈ tokens, token.Plain := by
  obtain ⟨hname, htype⟩ := h
  simp [Token.Plain, hname, htype]

/-- The tokens of a list of arguments do not nest. -/
theorem ArgumentListOf.plain {tokens : List Token} {arguments : List Argument}
    (h : ArgumentListOf tokens arguments) : ∀ token ∈ tokens, token.Plain := by
  induction h with
  | last hargument => exact hargument.plain
  | more hargument hcomma _ ih =>
    intro token htoken
    simp only [List.mem_append, List.mem_cons] at htoken
    rcases htoken with htoken | rfl | htoken
    · exact hargument.plain token htoken
    · simp [Token.Plain, hcomma]
    · exact ih token htoken

/-- The tokens of the arguments of a function do not nest. -/
theorem ArgumentsOf.plain {tokens : List Token} {arguments : List Argument}
    (h : ArgumentsOf tokens arguments) : ∀ token ∈ tokens, token.Plain := by
  cases h with
  | none => simp
  | some hlist => exact hlist.plain

/-- The tokens of a return type do not nest. -/
theorem ReturnTypeOf.plain {tokens : List Token} {returnType : Option TypeName}
    (h : ReturnTypeOf tokens returnType) : ∀ token ∈ tokens, token.Plain := by
  cases h with
  | none => simp
  | some htype => simp [Token.Plain, htype]

/-- The tokens of a declaration do not nest. -/
theorem DeclarationOf.plain {tokens : List Token} {declared : Declaration}
    (h : DeclarationOf tokens declared) : ∀ token ∈ tokens, token.Plain := by
  obtain ⟨hword, hname, htype, hvalue⟩ := h
  cases hvalue with
  | none => simp [Token.Plain, hword, hname, htype]
  | some hequal hoperand =>
    have := hoperand.plain
    simp_all [Token.Plain]

mutual

/-- Behind a statement, the braces are as they were in front of it. -/
theorem StatementOf.nesting_append {tokens : List Token} {statement : Option Statement}
    (braces : List Bool) (rest : List Token) : StatementOf tokens statement →
    nesting braces false (tokens ++ rest) =
      Statement.depthsOf (braces.count true) statement ++ nesting braces false rest
  | .empty hsemicolon => by
    show nesting braces false (_ :: rest) = nesting braces false rest
    rw [nesting_plain _ _ _ (by simp [Token.Plain, hsemicolon])]
  | .expression hoperand hsemicolon => by
    show nesting braces false (_ :: _ :: rest) = nesting braces false rest
    rw [nesting_plain _ _ _ hoperand.plain, nesting_plain _ _ _ (by simp [Token.Plain, hsemicolon])]
  | .declaration hdeclared => by
    show nesting braces false (tokens ++ rest) = nesting braces false rest
    rw [nesting_plain_append _ _ _ hdeclared.plain]
  | .conditional hconditional => by
    rw [hconditional.nesting_append braces rest]
    simp [Statement.depthsOf, Statement.depthsIn]

/-- Behind a conditional, the braces are as they were in front of it. -/
theorem ConditionalOf.nesting_append {tokens : List Token} {statement : Statement}
    (braces : List Bool) (rest : List Token) : ConditionalOf tokens statement →
    nesting braces false (tokens ++ rest) =
      statement.depths (braces.count true) ++ nesting braces false rest
  | .intro hword hoperand hblock hrest => by
    rw [List.cons_append, nesting_if _ _ _ hword, List.cons_append, List.append_assoc,
      nesting_plain _ _ _ hoperand.plain, hblock.nesting_append braces true,
      hrest.nesting_append braces rest]
    simp [Statement.depths]

/-- A second branch is as deep as the first one. -/
theorem AlternativeOf.nesting_append {tokens : List Token} {statements : List Statement}
    (braces : List Bool) (rest : List Token) : AlternativeOf tokens statements →
    nesting braces false (tokens ++ rest) =
      Statement.depthsIn (braces.count true + 1) statements ++ nesting braces false rest
  | .none => rfl
  | .some hword hblock => by
    rw [List.cons_append, nesting_else _ _ _ hword, hblock.nesting_append braces true rest]
    simp

/-- A block is one deeper than what is around it if it is a branch. -/
theorem BlockOf.nesting_append {tokens : List Token} {statements : List Statement}
    (braces : List Bool) (branch : Bool) (rest : List Token) : BlockOf tokens statements →
    nesting braces branch (tokens ++ rest) =
      Statement.depthsIn ((branch :: braces).count true) statements ++ nesting braces false rest
  | .intro hopening hinner hclosing => by
    rw [List.cons_append, nesting_open _ _ _ hopening, List.append_assoc,
      hinner.nesting_append (branch :: braces), List.singleton_append, nesting_close _ _ _ hclosing]
    rfl

/-- Behind statements, the braces are as they were in front of them. -/
theorem StatementsOf.nesting_append {tokens : List Token} {statements : List Statement}
    (braces : List Bool) (rest : List Token) : StatementsOf tokens statements →
    nesting braces false (tokens ++ rest) =
      Statement.depthsIn (braces.count true) statements ++ nesting braces false rest
  | .nil => rfl
  | @StatementsOf.cons _ _ statement _ hstatement hrest => by
    rw [List.append_assoc, hstatement.nesting_append, hrest.nesting_append]
    cases statement <;> simp [Statement.depthsOf, Statement.depthsIn]

end

/-- No conditional is in front of the body of a function. -/
theorem header_plain {word name opening closing : Token} {middle type : List Token}
    {arguments : List Argument} {returnType : Option TypeName}
    (hword : word.kind = .keyword .defWord) (hname : name.kind = .identifier)
    (hopening : opening.kind = .symbol .parenOpen) (harguments : ArgumentsOf middle arguments)
    (hclosing : closing.kind = .symbol .parenClose) (htype : ReturnTypeOf type returnType) :
    ∀ token ∈ word :: name :: opening :: (middle ++ closing :: type), token.Plain := by
  simp only [List.forall_mem_cons, List.forall_mem_append]
  refine ⟨?_, ?_, ?_, harguments.plain, ?_, htype.plain⟩
  · simp [Token.Plain, hword]
  · simp [Token.Plain, hname]
  · simp [Token.Plain, hopening]
  · simp [Token.Plain, hclosing]

/-- The conditionals of a function lie as deep as they do in its body, and what follows it is
outside of it. -/
theorem FunctionOf.nesting_append {tokens : List Token} {definition : Function}
    (rest : List Token) (h : FunctionOf tokens definition) :
    nesting [] false (tokens ++ rest) =
      Statement.depthsIn 0 definition.body ++ nesting [] false rest := by
  obtain ⟨hword, hname, hopening, harguments, hclosing, htype, hblock⟩ := h
  have hplain := header_plain hword hname hopening harguments hclosing htype
  -- No brace is open around the body, so it does not count as a branch.
  have hbody := hblock.nesting_append [] false rest
  rw [← nesting_plain_append [] false _ hplain] at hbody
  simpa using hbody

/-- The conditionals of a part of a program lie as deep as they do in its tree, and what follows it
is outside of it. -/
theorem TopLevelOf.nesting_append {tokens : List Token} {part : Option TopLevel}
    (rest : List Token) (h : TopLevelOf tokens part) :
    nesting [] false (tokens ++ rest) =
      TopLevel.depthsIn part.toList ++ nesting [] false rest := by
  cases h with
  | function hfunction => simp [hfunction.nesting_append, TopLevel.depthsIn, TopLevel.depths]
  | @statement content hstatement =>
    rw [hstatement.nesting_append [] rest]
    cases content <;>
      simp [Statement.depthsOf, Statement.depthsIn, TopLevel.depthsIn, TopLevel.depths]

/-- The conditionals of a program lie as deep as they do in its parts, and what follows it is
outside of it. -/
theorem ProgramOf.nesting_append {tokens : List Token} {parts : List TopLevel}
    (rest : List Token) (h : ProgramOf tokens parts) :
    nesting [] false (tokens ++ rest) = TopLevel.depthsIn parts ++ nesting [] false rest := by
  induction h with
  | nil => rfl
  | cons hpart _ ih =>
    rw [List.append_assoc, hpart.nesting_append, ih]
    simp [TopLevel.depthsIn]

/-- The depths that are read off the tokens of a program are those in its tree. -/
theorem ProgramOf.depthsIn_eq {tokens : List Token} {parts : List TopLevel}
    (h : ProgramOf tokens parts) : TopLevel.depthsIn parts = nesting [] false tokens := by
  have hnesting := h.nesting_append []
  simpa using hnesting.symm

end Grammar

end VinylSyntax
