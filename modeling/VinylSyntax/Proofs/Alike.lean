import VinylSyntax.Proofs.Printing

/-!
# Programs up to places

The grammar looks at the kinds of tokens, never at their places. So tokens with the kinds and the
texts of a program, wherever they stand, are a program with the same tree up to places: see
`Grammar.ProgramOf.alike`. Limits do not depend on places either.
-/

namespace VinylSyntax

/-! ## Tokens with the same kinds and texts -/

/-- Two lists have the same tokens, wherever these stand. -/
def Alike (tokens words : List Token) : Prop :=
  tokens.map Token.unplaced = words.map Token.unplaced

/-- Tokens are alike to an empty list only if there are none. -/
theorem alike_nil_iff {tokens : List Token} : Alike tokens [] ↔ tokens = [] := by
  simp [Alike]

/-- Tokens are alike one by one, beginning with the first. -/
theorem alike_cons_iff {tokens words : List Token} {word : Token} :
    Alike tokens (word :: words) ↔
      ∃ token rest, tokens = token :: rest ∧ token.unplaced = word.unplaced ∧ Alike rest words := by
  simp [Alike, List.map_eq_cons_iff]

/-- What is alike to two stretches of tokens is made of two stretches alike to these. -/
theorem alike_append_iff {tokens front back : List Token} :
    Alike tokens (front ++ back) ↔
      ∃ first second, tokens = first ++ second ∧ Alike first front ∧ Alike second back := by
  simp [Alike, List.map_eq_append_iff]

/-- Tokens that are the same but for their places are of the same kind. -/
theorem Token.kind_eq_of_unplaced {a b : Token} (h : a.unplaced = b.unplaced) :
    a.kind = b.kind := by
  show a.unplaced.kind = b.unplaced.kind
  rw [h]

/-- Tokens other than comments are the same if all tokens are. -/
theorem Alike.filter_isComment {tokens words : List Token} (h : Alike tokens words) :
    Alike (tokens.filter (!·.isComment)) (words.filter (!·.isComment)) := by
  induction words generalizing tokens with
  | nil =>
    obtain rfl := alike_nil_iff.1 h
    rfl
  | cons word words ih =>
    obtain ⟨token, rest, rfl, hunplaced, hrest⟩ := alike_cons_iff.1 h
    have hcomment : token.isComment = word.isComment := by
      rw [Token.isComment, Token.kind_eq_of_unplaced hunplaced]
      rfl
    rw [List.filter_cons, List.filter_cons, hcomment]
    split
    · exact alike_cons_iff.2 ⟨_, _, rfl, hunplaced, ih hrest⟩
    · exact ih hrest

/-- Places are taken from statements behind one another in each of them. -/
theorem Statement.unplacedIn_append (front back : List Statement) :
    Statement.unplacedIn (front ++ back) =
      Statement.unplacedIn front ++ Statement.unplacedIn back := by
  induction front with
  | nil => rfl
  | cons statement front ih => simp [Statement.unplacedIn, ih]

/-- Places are taken from a statement that may be missing if it is there. -/
theorem Statement.unplacedIn_toList (statement : Option Statement) :
    Statement.unplacedIn statement.toList = (statement.map Statement.unplaced).toList := by
  cases statement <;> rfl

/-! ## Derivations -/

namespace Grammar

/-- A token alike to an operand is derived as an expression that is the same but for its place. -/
theorem OperandOf.alike {token other : Token} {expression : Expression}
    (h : OperandOf token expression) (hother : other.unplaced = token.unplaced) :
    ∃ expression', OperandOf other expression' ∧ expression'.unplaced = expression.unplaced := by
  have hsame := Token.kind_eq_of_unplaced hother
  cases h with
  | identifier hkind =>
    refine ⟨.identifier ⟨other⟩, .identifier (hsame.trans hkind), ?_⟩
    simp only [Expression.unplaced, Identifier.unplaced, hother]
  | integer hkind =>
    exact ⟨.integer other, .integer (hsame.trans hkind), by simp only [Expression.unplaced, hother]⟩
  | float hkind =>
    exact ⟨.float other, .float (hsame.trans hkind), by simp only [Expression.unplaced, hother]⟩

/-- Tokens alike to an argument are derived as one that is the same but for its place. -/
theorem ArgumentOf.alike {tokens others : List Token} {argument : Argument}
    (h : ArgumentOf tokens argument) (hothers : Alike others tokens) :
    ∃ argument', ArgumentOf others argument' ∧ argument'.unplaced = argument.unplaced := by
  obtain ⟨hname, htype⟩ := h
  obtain ⟨name, _, rfl, hname', hrest⟩ := alike_cons_iff.1 hothers
  obtain ⟨type, _, rfl, htype', hrest⟩ := alike_cons_iff.1 hrest
  obtain rfl := alike_nil_iff.1 hrest
  refine ⟨⟨⟨name⟩, ⟨type⟩⟩, ?_, ?_⟩
  · exact .intro ((Token.kind_eq_of_unplaced hname').trans hname)
      ((Token.kind_eq_of_unplaced htype').trans htype)
  · simp only [Argument.unplaced, Identifier.unplaced, TypeName.unplaced, hname', htype']

/-- Tokens alike to a list of arguments are derived as arguments that are the same but for their
places. -/
theorem ArgumentListOf.alike {tokens others : List Token} {arguments : List Argument}
    (h : ArgumentListOf tokens arguments) (hothers : Alike others tokens) :
    ∃ arguments', ArgumentListOf others arguments' ∧
      arguments'.map Argument.unplaced = arguments.map Argument.unplaced := by
  induction h generalizing others with
  | last hargument =>
    obtain ⟨argument, hargument', hunplaced⟩ := hargument.alike hothers
    exact ⟨[argument], .last hargument', by simp [hunplaced]⟩
  | more hargument hcomma _ ih =>
    obtain ⟨front, _, rfl, hfront, hothers⟩ := alike_append_iff.1 hothers
    obtain ⟨comma, rest, rfl, hcomma', hrest⟩ := alike_cons_iff.1 hothers
    obtain ⟨argument, hargument', hunplaced⟩ := hargument.alike hfront
    obtain ⟨arguments, harguments, hunplaced'⟩ := ih hrest
    refine ⟨argument :: arguments,
      .more hargument' ((Token.kind_eq_of_unplaced hcomma').trans hcomma) harguments, ?_⟩
    rw [List.map_cons, List.map_cons, hunplaced, hunplaced']

/-- Tokens alike to the arguments of a function are derived as arguments that are the same but for
their places. -/
theorem ArgumentsOf.alike {tokens others : List Token} {arguments : List Argument}
    (h : ArgumentsOf tokens arguments) (hothers : Alike others tokens) :
    ∃ arguments', ArgumentsOf others arguments' ∧
      arguments'.map Argument.unplaced = arguments.map Argument.unplaced := by
  cases h with
  | none =>
    obtain rfl := alike_nil_iff.1 hothers
    exact ⟨[], .none, rfl⟩
  | some hlist =>
    obtain ⟨arguments', hlist', hunplaced⟩ := hlist.alike hothers
    exact ⟨arguments', .some hlist', hunplaced⟩

/-- Tokens alike to a return type are derived as one that is the same but for its place. -/
theorem ReturnTypeOf.alike {tokens others : List Token} {returnType : Option TypeName}
    (h : ReturnTypeOf tokens returnType) (hothers : Alike others tokens) :
    ∃ returnType', ReturnTypeOf others returnType' ∧
      returnType'.map TypeName.unplaced = returnType.map TypeName.unplaced := by
  cases h with
  | none =>
    obtain rfl := alike_nil_iff.1 hothers
    exact ⟨_, .none, rfl⟩
  | some htype =>
    obtain ⟨type, _, rfl, htype', hrest⟩ := alike_cons_iff.1 hothers
    obtain rfl := alike_nil_iff.1 hrest
    refine ⟨_, .some ((Token.kind_eq_of_unplaced htype').trans htype), ?_⟩
    simp only [Option.map_some, TypeName.unplaced, htype']

/-- Tokens alike to the value of a declaration are derived as one that is the same but for its
place. -/
theorem ValueOf.alike {tokens others : List Token} {value : Option Expression}
    (h : ValueOf tokens value) (hothers : Alike others tokens) :
    ∃ value', ValueOf others value' ∧
      value'.map Expression.unplaced = value.map Expression.unplaced := by
  cases h with
  | none =>
    obtain rfl := alike_nil_iff.1 hothers
    exact ⟨_, .none, rfl⟩
  | some hequal hoperand =>
    obtain ⟨equal, _, rfl, hequal', hrest⟩ := alike_cons_iff.1 hothers
    obtain ⟨operand, _, rfl, hoperand', hrest⟩ := alike_cons_iff.1 hrest
    obtain rfl := alike_nil_iff.1 hrest
    obtain ⟨expression, hexpression, hunplaced⟩ := hoperand.alike hoperand'
    exact ⟨_, .some ((Token.kind_eq_of_unplaced hequal').trans hequal) hexpression,
      by simp [hunplaced]⟩

/-- Tokens alike to a declaration are derived as one that is the same but for its place. -/
theorem DeclarationOf.alike {tokens others : List Token} {declared : Declaration}
    (h : DeclarationOf tokens declared) (hothers : Alike others tokens) :
    ∃ declared', DeclarationOf others declared' ∧ declared'.unplaced = declared.unplaced := by
  obtain ⟨hword, hname, htype, hvalue⟩ := h
  obtain ⟨word, _, rfl, hword', hothers⟩ := alike_cons_iff.1 hothers
  obtain ⟨name, _, rfl, hname', hothers⟩ := alike_cons_iff.1 hothers
  obtain ⟨type, rest, rfl, htype', hrest⟩ := alike_cons_iff.1 hothers
  obtain ⟨value, hvalue', hunplaced⟩ := hvalue.alike hrest
  refine ⟨⟨⟨name⟩, ⟨type⟩, value⟩, ?_, ?_⟩
  · exact .intro ((Token.kind_eq_of_unplaced hword').trans hword)
      ((Token.kind_eq_of_unplaced hname').trans hname)
      ((Token.kind_eq_of_unplaced htype').trans htype) hvalue'
  · simp only [Declaration.unplaced, Identifier.unplaced, TypeName.unplaced, hname', htype',
      hunplaced]

mutual

/-- Tokens alike to a statement are derived as one that is the same but for its place. -/
theorem StatementOf.alike {tokens others : List Token} {statement : Option Statement}
    (hothers : Alike others tokens) : StatementOf tokens statement →
    ∃ statement', StatementOf others statement' ∧
      statement'.map Statement.unplaced = statement.map Statement.unplaced
  | .empty hsemicolon => by
    obtain ⟨semicolon, _, rfl, hsemicolon', hrest⟩ := alike_cons_iff.1 hothers
    obtain rfl := alike_nil_iff.1 hrest
    exact ⟨none, .empty ((Token.kind_eq_of_unplaced hsemicolon').trans hsemicolon), rfl⟩
  | .expression hoperand hsemicolon => by
    obtain ⟨operand, _, rfl, hoperand', hrest⟩ := alike_cons_iff.1 hothers
    obtain ⟨semicolon, _, rfl, hsemicolon', hrest⟩ := alike_cons_iff.1 hrest
    obtain rfl := alike_nil_iff.1 hrest
    obtain ⟨expression, hexpression, hunplaced⟩ := hoperand.alike hoperand'
    exact ⟨some (.expression expression),
      .expression hexpression ((Token.kind_eq_of_unplaced hsemicolon').trans hsemicolon),
      by simp [Statement.unplaced, hunplaced]⟩
  | .declaration hdeclared => by
    obtain ⟨declared, hdeclared', hunplaced⟩ := hdeclared.alike hothers
    exact ⟨some (.declaration declared), .declaration hdeclared',
      by simp [Statement.unplaced, hunplaced]⟩
  | .conditional hconditional => by
    obtain ⟨statement, hstatement, hunplaced⟩ := hconditional.alike hothers
    exact ⟨some statement, .conditional hstatement, by simp [hunplaced]⟩

/-- Tokens alike to a conditional are derived as one that is the same but for its place. -/
theorem ConditionalOf.alike {tokens others : List Token} {statement : Statement}
    (hothers : Alike others tokens) : ConditionalOf tokens statement →
    ∃ statement', ConditionalOf others statement' ∧ statement'.unplaced = statement.unplaced
  | .intro hword hoperand hblock hrest => by
    obtain ⟨word, _, rfl, hword', hothers⟩ := alike_cons_iff.1 hothers
    obtain ⟨operand, _, rfl, hoperand', hothers⟩ := alike_cons_iff.1 hothers
    obtain ⟨block, rest, rfl, hblock', hrest'⟩ := alike_append_iff.1 hothers
    obtain ⟨condition, hcondition, hunplaced⟩ := hoperand.alike hoperand'
    obtain ⟨whenTrue, hwhenTrue, hunplaced'⟩ := hblock.alike hblock'
    obtain ⟨whenFalse, hwhenFalse, hunplaced''⟩ := hrest.alike hrest'
    refine ⟨.conditional condition whenTrue whenFalse, ?_, ?_⟩
    · exact .intro ((Token.kind_eq_of_unplaced hword').trans hword) hcondition hwhenTrue hwhenFalse
    · simp only [Statement.unplaced, hunplaced, hunplaced', hunplaced'']

/-- Tokens alike to an alternative are derived as statements that are the same but for their
places. -/
theorem AlternativeOf.alike {tokens others : List Token} {statements : List Statement}
    (hothers : Alike others tokens) : AlternativeOf tokens statements →
    ∃ statements', AlternativeOf others statements' ∧
      Statement.unplacedIn statements' = Statement.unplacedIn statements
  | .none => by
    obtain rfl := alike_nil_iff.1 hothers
    exact ⟨[], .none, rfl⟩
  | .some hword hblock => by
    obtain ⟨word, _, rfl, hword', hblock'⟩ := alike_cons_iff.1 hothers
    obtain ⟨statements, hstatements, hunplaced⟩ := hblock.alike hblock'
    exact ⟨statements, .some ((Token.kind_eq_of_unplaced hword').trans hword) hstatements,
      hunplaced⟩

/-- Tokens alike to a block are derived as statements that are the same but for their places. -/
theorem BlockOf.alike {tokens others : List Token} {statements : List Statement}
    (hothers : Alike others tokens) : BlockOf tokens statements →
    ∃ statements', BlockOf others statements' ∧
      Statement.unplacedIn statements' = Statement.unplacedIn statements
  | .intro hopening hinner hclosing => by
    obtain ⟨opening, _, rfl, hopening', hothers⟩ := alike_cons_iff.1 hothers
    obtain ⟨inner, _, rfl, hinner', hothers⟩ := alike_append_iff.1 hothers
    obtain ⟨closing, _, rfl, hclosing', hrest⟩ := alike_cons_iff.1 hothers
    obtain rfl := alike_nil_iff.1 hrest
    obtain ⟨statements, hstatements, hunplaced⟩ := hinner.alike hinner'
    exact ⟨statements, .intro ((Token.kind_eq_of_unplaced hopening').trans hopening) hstatements
      ((Token.kind_eq_of_unplaced hclosing').trans hclosing), hunplaced⟩

/-- Tokens alike to statements are derived as statements that are the same but for their places. -/
theorem StatementsOf.alike {tokens others : List Token} {statements : List Statement}
    (hothers : Alike others tokens) : StatementsOf tokens statements →
    ∃ statements', StatementsOf others statements' ∧
      Statement.unplacedIn statements' = Statement.unplacedIn statements
  | .nil => by
    obtain rfl := alike_nil_iff.1 hothers
    exact ⟨[], .nil, rfl⟩
  | .cons hstatement hrest => by
    obtain ⟨front, back, rfl, hfront, hback⟩ := alike_append_iff.1 hothers
    obtain ⟨statement, hstatement', hunplaced⟩ := hstatement.alike hfront
    obtain ⟨statements, hstatements, hunplaced'⟩ := hrest.alike hback
    refine ⟨_, .cons hstatement' hstatements, ?_⟩
    rw [Statement.unplacedIn_append, Statement.unplacedIn_append, hunplaced',
      Statement.unplacedIn_toList, Statement.unplacedIn_toList, hunplaced]

end

/-- Tokens alike to a function are derived as one that is the same but for its place. -/
theorem FunctionOf.alike {tokens others : List Token} {definition : Function}
    (h : FunctionOf tokens definition) (hothers : Alike others tokens) :
    ∃ definition', FunctionOf others definition' ∧
      definition'.unplaced = definition.unplaced := by
  obtain ⟨hword, hname, hopening, harguments, hclosing, htype, hblock⟩ := h
  obtain ⟨word, _, rfl, hword', hothers⟩ := alike_cons_iff.1 hothers
  obtain ⟨name, _, rfl, hname', hothers⟩ := alike_cons_iff.1 hothers
  obtain ⟨opening, _, rfl, hopening', hothers⟩ := alike_cons_iff.1 hothers
  obtain ⟨middle, _, rfl, hmiddle, hothers⟩ := alike_append_iff.1 hothers
  obtain ⟨closing, _, rfl, hclosing', hothers⟩ := alike_cons_iff.1 hothers
  obtain ⟨type, block, rfl, htype', hblock'⟩ := alike_append_iff.1 hothers
  obtain ⟨arguments, harguments', hunplaced⟩ := harguments.alike hmiddle
  obtain ⟨returnType, hreturnType, hunplaced'⟩ := htype.alike htype'
  obtain ⟨body, hbody, hunplaced''⟩ := hblock.alike hblock'
  refine ⟨⟨⟨name⟩, arguments, returnType, body⟩, ?_, ?_⟩
  · exact .intro ((Token.kind_eq_of_unplaced hword').trans hword)
      ((Token.kind_eq_of_unplaced hname').trans hname)
      ((Token.kind_eq_of_unplaced hopening').trans hopening) harguments'
      ((Token.kind_eq_of_unplaced hclosing').trans hclosing) hreturnType hbody
  · simp only [Function.unplaced, Identifier.unplaced, hname', hunplaced, hunplaced', hunplaced'']

/-- Tokens alike to a part of a program are derived as one that is the same but for its place. -/
theorem TopLevelOf.alike {tokens others : List Token} {part : Option TopLevel}
    (h : TopLevelOf tokens part) (hothers : Alike others tokens) :
    ∃ part', TopLevelOf others part' ∧
      part'.map TopLevel.unplaced = part.map TopLevel.unplaced := by
  cases h with
  | function hfunction =>
    obtain ⟨definition, hdefinition, hunplaced⟩ := hfunction.alike hothers
    exact ⟨_, .function hdefinition, by simp [TopLevel.unplaced, hunplaced]⟩
  | @statement content hstatement =>
    obtain ⟨content', hcontent, hunplaced⟩ := hstatement.alike hothers
    have hcomp : ∀ content : Option Statement, (content.map TopLevel.statement).map
        TopLevel.unplaced = (content.map Statement.unplaced).map TopLevel.statement := by
      intro content
      cases content <;> rfl
    exact ⟨_, .statement hcontent, by rw [hcomp, hcomp, hunplaced]⟩

/-- Whatever has the kinds and the texts of a program is a program with the same tree, but for
places. -/
theorem ProgramOf.alike {tokens others : List Token} {parts : List TopLevel}
    (h : ProgramOf tokens parts) (hothers : Alike others tokens) :
    ∃ parts', ProgramOf others parts' ∧
      parts'.map TopLevel.unplaced = parts.map TopLevel.unplaced := by
  induction h generalizing others with
  | nil =>
    obtain rfl := alike_nil_iff.1 hothers
    exact ⟨[], .nil, rfl⟩
  | cons hpart _ ih =>
    obtain ⟨front, back, rfl, hfront, hback⟩ := alike_append_iff.1 hothers
    obtain ⟨part, hpart', hunplaced⟩ := hpart.alike hfront
    obtain ⟨parts, hparts, hunplaced'⟩ := ih hback
    refine ⟨_, .cons hpart' hparts, ?_⟩
    rw [List.map_append, List.map_append, hunplaced', ← Option.toList_map, hunplaced,
      Option.toList_map]

end Grammar

/-! ## Limits -/

mutual

/-- The depths within a statement do not depend on its place. -/
theorem Statement.depths_unplaced (outer : Nat) (statement : Statement) :
    statement.unplaced.depths outer = statement.depths outer := by
  match statement with
  | .expression operand => rfl
  | .declaration declared => rfl
  | .conditional condition whenTrue whenFalse =>
    simp only [Statement.unplaced, Statement.depths]
    rw [Statement.depthsIn_unplacedIn (outer + 1) whenTrue,
      Statement.depthsIn_unplacedIn (outer + 1) whenFalse]

/-- The depths within statements do not depend on their places. -/
theorem Statement.depthsIn_unplacedIn (outer : Nat) (statements : List Statement) :
    Statement.depthsIn outer (Statement.unplacedIn statements) =
      Statement.depthsIn outer statements := by
  match statements with
  | [] => rfl
  | statement :: statements =>
    simp only [Statement.unplacedIn, Statement.depthsIn]
    rw [Statement.depths_unplaced outer statement, Statement.depthsIn_unplacedIn outer statements]

end

/-- The depths within a part of a program do not depend on its place. -/
theorem TopLevel.depths_unplaced (part : TopLevel) : part.unplaced.depths = part.depths := by
  cases part with
  | function definition => exact Statement.depthsIn_unplacedIn 0 definition.body
  | statement content => exact Statement.depths_unplaced 0 content

/-- The number of arguments does not depend on the place. -/
theorem TopLevel.arity_unplaced (part : TopLevel) : part.unplaced.arity = part.arity := by
  cases part with
  | function definition => exact List.length_map _
  | statement content => rfl

/-- Limits do not depend on places. -/
theorem TopLevel.withinLimits_unplaced {parts : List TopLevel} :
    TopLevel.WithinLimits (parts.map TopLevel.unplaced) ↔ TopLevel.WithinLimits parts := by
  simp only [TopLevel.WithinLimits, TopLevel.depthsIn, List.flatMap_map, TopLevel.depths_unplaced,
    List.forall_mem_map, TopLevel.arity_unplaced]

end VinylSyntax
