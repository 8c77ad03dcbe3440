import VinylSyntax.Proofs.Nesting
import VinylSyntax.Proofs.Phrases

/-!
# Statements, blocks and conditionals

The rules of statements that lie in `outer` conditionals, and that the parser follows them. What
breaks the limit is an `if` in as many conditionals as are allowed: `Overnested` says that it is the
first one. The rules are proved to be followed by induction on how deep conditionals may be nested
further.
-/

namespace VinylSyntax

open Grammar

/-- All conditionals of statements that lie in `outer` conditionals lie in fewer than allowed. -/
def Statement.Shallow (outer : Nat) (statements : List Statement) : Prop :=
  ∀ depth ∈ Statement.depthsIn outer statements, depth < Limits.nestingDepth

/-- An empty list of statements is not too deep. -/
theorem Statement.shallow_nil (outer : Nat) : Statement.Shallow outer [] := by
  simp [Statement.Shallow, Statement.depthsIn]

/-- Statements behind one another are not too deep if and only if neither list of them is. -/
theorem Statement.shallow_append {outer : Nat} {front back : List Statement} :
    Statement.Shallow outer (front ++ back) ↔
      Statement.Shallow outer front ∧ Statement.Shallow outer back := by
  induction front with
  | nil => simp [Statement.shallow_nil]
  | cons statement front ih =>
    simp only [Statement.Shallow, List.cons_append, Statement.depthsIn,
      List.forall_mem_append] at ih ⊢
    rw [ih, and_assoc]

/-- A declaration is not too deep anywhere. -/
theorem Statement.shallow_declaration (outer : Nat) (declared : Declaration) :
    Statement.Shallow outer [.declaration declared] := by
  simp [Statement.Shallow, Statement.depthsIn, Statement.depths]

/-- An expression is not too deep anywhere. -/
theorem Statement.shallow_expression (outer : Nat) (expression : Expression) :
    Statement.Shallow outer [.expression expression] := by
  simp [Statement.Shallow, Statement.depthsIn, Statement.depths]

/-- A conditional is not too deep if it lies in fewer conditionals than are allowed, and its
branches are not too deep one conditional further in. -/
theorem Statement.shallow_conditional {outer : Nat} {condition : Expression}
    {whenTrue whenFalse : List Statement} :
    Statement.Shallow outer [.conditional condition whenTrue whenFalse] ↔
      outer < Limits.nestingDepth ∧ Statement.Shallow (outer + 1) whenTrue ∧
        Statement.Shallow (outer + 1) whenFalse := by
  simp [Statement.Shallow, Statement.depthsIn, Statement.depths, or_imp, forall_and]

/-- Tokens end in the first of their `if`s that lies in as many conditionals as are allowed, and the
error says so. `scan` gives the depths of their `if`s. -/
def Overnested (scan : List Token → List Nat) (tokens : List Token) (error : SyntaxError) : Prop :=
  ∃ before token shallow, tokens = before ++ [token] ∧ token.kind = .keyword .ifWord ∧
    error = .nestingTooDeep (Limits.nestingDepth + 1) token.span.start ∧
    scan tokens = shallow ++ [Limits.nestingDepth] ∧ ∀ depth ∈ shallow, depth < Limits.nestingDepth

/-- What is nested too deeply is so behind tokens whose conditionals are not. -/
theorem Overnested.behind {scan scan' : List Token → List Nat} {front tokens : List Token}
    {error : SyntaxError} {depths : List Nat} (h : Overnested scan' tokens error)
    (hscan : scan (front ++ tokens) = depths ++ scan' tokens)
    (hdepths : ∀ depth ∈ depths, depth < Limits.nestingDepth) :
    Overnested scan (front ++ tokens) error := by
  obtain ⟨before, token, shallow, rfl, hkind, herror, hnesting, hshallow⟩ := h
  refine ⟨front ++ before, token, depths ++ shallow, by simp, hkind, herror, ?_, ?_⟩
  · rw [hscan, hnesting, List.append_assoc]
  · intro depth hdepth
    rcases List.mem_append.1 hdepth with hdepth | hdepth
    · exact hdepths depth hdepth
    · exact hshallow depth hdepth

/-- What is nested too deeply is so behind tokens that do not nest. -/
theorem Overnested.behind_plain {braces : List Bool} {branch : Bool} {front tokens : List Token}
    {error : SyntaxError} (h : Overnested (nesting braces branch) tokens error)
    (hplain : ∀ token ∈ front, token.Plain) :
    Overnested (nesting braces branch) (front ++ tokens) error := by
  have hscan : nesting braces branch (front ++ tokens) = [] ++ nesting braces branch tokens :=
    nesting_plain_append braces branch tokens hplain
  exact h.behind hscan (by simp)

namespace Parse

/-! ## Rules -/

/-- Two braces are a block without statements. -/
theorem blockOf_empty :
    BlockOf [.ofKind (.symbol .braceOpen), .ofKind (.symbol .braceClose)] [] :=
  .intro rfl .nil rfl

/-- Every `if` can be completed to a conditional. -/
theorem exists_conditionalOf {word : Token} (hword : word.kind = .keyword .ifWord) :
    ∃ rest statement, ConditionalOf (word :: rest) statement := by
  have hoperand : OperandOf (.ofKind .identifier) (.identifier ⟨.ofKind .identifier⟩) :=
    .identifier rfl
  exact ⟨_, _, .intro hword hoperand blockOf_empty .none⟩

/-- The rule of a statement that lies in `outer` conditionals. -/
def statementRule (outer : Nat) : Rule (Option Statement) where
  phrase := StatementOf
  limited tokens statement :=
    StatementOf tokens statement ∧ Statement.Shallow outer statement.toList
  follow next := NotNext (Token.isSymbol .equal) next ∧ NotNext (Token.isKeyword .elseWord) next
  excess tokens error := ∀ braces : List Bool, braces.count true = outer →
    Overnested (nesting braces false) tokens error
  phrase_of_limited h := h.1
  productive := ⟨[.ofKind (.symbol .semicolon)], none, .empty rfl⟩

/-- The rule of a conditional that lies in `outer` conditionals. -/
def conditionalRule (outer : Nat) : Rule Statement where
  phrase := ConditionalOf
  limited tokens statement := ConditionalOf tokens statement ∧ Statement.Shallow outer [statement]
  follow := NotNext (Token.isKeyword .elseWord)
  excess tokens error := ∀ braces : List Bool, braces.count true = outer →
    Overnested (nesting braces false) tokens error
  phrase_of_limited h := h.1
  productive := by
    obtain ⟨rest, statement, h⟩ := @exists_conditionalOf (.ofKind (.keyword .ifWord)) rfl
    exact ⟨_, statement, h⟩

/-- The rule of a block whose statements lie in `outer` conditionals. -/
def blockRule (outer : Nat) : Rule (List Statement) where
  phrase := BlockOf
  limited tokens statements := BlockOf tokens statements ∧ Statement.Shallow outer statements
  follow _ := True
  excess tokens error := ∀ (braces : List Bool) (branch : Bool),
    (branch :: braces).count true = outer → Overnested (nesting braces branch) tokens error
  phrase_of_limited h := h.1
  productive := ⟨_, _, blockOf_empty⟩

/-- A statement begins with a token that does not end a block and may follow any statement. -/
theorem statementOf_first {tokens : List Token} {statement : Option Statement}
    (h : StatementOf tokens statement) :
    ∃ first rest, tokens = first :: rest ∧ first.isSymbol .braceClose = false ∧
      first.isSymbol .equal = false ∧ first.isKeyword .elseWord = false ∧
      first.isKeyword .defWord = false := by
  cases h with
  | empty hsemicolon => exact ⟨_, _, rfl, by simp [Token.isSymbol, Token.isKeyword, hsemicolon]⟩
  | expression hoperand _ =>
    exact ⟨_, _, rfl, hoperand.isSymbol_eq _, hoperand.isSymbol_eq _, hoperand.isKeyword_eq _,
      hoperand.isKeyword_eq _⟩
  | declaration hdeclared =>
    obtain ⟨hword, -, -, -⟩ := hdeclared
    exact ⟨_, _, rfl, by simp [Token.isSymbol, Token.isKeyword, hword]⟩
  | conditional hconditional =>
    obtain ⟨hword, -, -, -⟩ := hconditional
    exact ⟨_, _, rfl, by simp [Token.isSymbol, Token.isKeyword, hword]⟩

/-! ## Blocks -/

/-- Statements one behind the other are read as the grammar has them. -/
theorem many_statementOf_iff {tokens : List Token} {statements : List Statement} :
    Rule.Many StatementOf tokens statements ↔ StatementsOf tokens statements := by
  constructor
  · intro h
    induction h with
    | nil => exact .nil
    | cons hphrase _ ih => exact .cons hphrase ih
  · exact many_of_statementsOf
where
  -- Derivations of statements are one of several families, so this is a recursion on them.
  many_of_statementsOf {tokens : List Token} {statements : List Statement} :
      StatementsOf tokens statements → Rule.Many StatementOf tokens statements
    | .nil => .nil
    | .cons hstatement hrest => .cons hstatement (many_of_statementsOf hrest)

/-- Statements within the limit, one behind the other, are statements that are not too deep. -/
theorem many_limited_iff {outer : Nat} {tokens : List Token} {statements : List Statement} :
    Rule.Many (statementRule outer).limited tokens statements ↔
      StatementsOf tokens statements ∧ Statement.Shallow outer statements := by
  rw [← many_statementOf_iff]
  exact Rule.many_bounded_iff (Statement.shallow_nil outer) Statement.shallow_append

/-- Whether a block ends is decided by whether its closing brace or the end of the text is next. -/
theorem blockEnds_decides :
    Decides blockEnds fun next => next.isNone || next.any (Token.isSymbol .braceClose) := by
  intro parser
  rcases atEnd_decides parser with
    ⟨ready, hresult, hready, hahead, hle⟩ | ⟨error, stuck, hresult, hahead⟩
  · unfold blockEnds
    rw [bind_ok hresult]
    cases hhead : parser.ahead.tokens.head? with
    | none => exact .inl ⟨ready, rfl, hready, hahead, hle⟩
    | some first =>
      rcases nextIs_decides (Token.isSymbol .braceClose) ready with
        ⟨last, hnext, hlast, hahead', hle'⟩ | ⟨error, stuck, hnext, hahead'⟩
      · refine .inl ⟨last, ?_, hlast, hahead'.trans hahead, Nat.le_trans hle' hle⟩
        rw [hahead, hhead] at hnext
        exact hnext
      · exact .inr ⟨error, stuck, hnext, hahead ▸ hahead'⟩
  · exact .inr ⟨error, stuck, bind_error hresult, hahead⟩

/-- Tokens are a block, whatever is inside of it. -/
def BlockWith (inside : List Token → List Statement → Prop) (tokens : List Token)
    (statements : List Statement) : Prop :=
  ∃ opening inner closing, opening.kind = .symbol .braceOpen ∧ inside inner statements ∧
    closing.kind = .symbol .braceClose ∧ tokens = opening :: (inner ++ [closing])

/-- A block is what its statements make of it. -/
theorem blockOf_iff {tokens : List Token} {statements : List Statement} :
    BlockOf tokens statements ↔ BlockWith (Rule.Many StatementOf) tokens statements := by
  constructor
  · intro h
    obtain ⟨hopening, hinner, hclosing⟩ := h
    exact ⟨_, _, _, hopening, many_statementOf_iff.2 hinner, hclosing, rfl⟩
  · intro ⟨opening, inner, closing, hopening, hinner, hclosing, htokens⟩
    subst htokens
    exact .intro hopening (many_statementOf_iff.1 hinner) hclosing

/-- A block is within the limit if and only if its statements are. -/
theorem block_limited_iff {outer : Nat} {tokens : List Token} {statements : List Statement} :
    (blockRule outer).limited tokens statements ↔
      BlockWith (Rule.Many (statementRule outer).limited) tokens statements := by
  constructor
  · intro ⟨h, hshallow⟩
    obtain ⟨hopening, hinner, hclosing⟩ := h
    exact ⟨_, _, _, hopening, many_limited_iff.2 ⟨hinner, hshallow⟩, hclosing, rfl⟩
  · intro ⟨opening, inner, closing, hopening, hinner, hclosing, htokens⟩
    subst htokens
    obtain ⟨hinner, hshallow⟩ := many_limited_iff.1 hinner
    exact ⟨.intro hopening hinner hclosing, hshallow⟩

/-- The rules of the parts of a block, one behind the other, read a block. -/
theorem sequence_block {phrase : List Token → Option Statement → Prop} {tokens : List Token}
    {statements : List Statement} :
    Rule.Sequence (Rule.Single (Token.isSymbol .braceOpen)) (fun _ =>
      Rule.Sequence (Rule.Many phrase) fun found =>
      Rule.Sequence (Rule.Single (Token.isSymbol .braceClose)) fun _ => Rule.Nothing found)
      tokens statements ↔ BlockWith (Rule.Many phrase) tokens statements := by
  rw [Rule.sequence_single]
  constructor
  · intro ⟨opening, _, hopening, hrest, htokens⟩
    obtain ⟨found, inner, _, hinner, hback, rfl⟩ := hrest
    obtain ⟨closing, _, hclosing, ⟨rfl, rfl⟩, rfl⟩ := Rule.sequence_single.1 hback
    exact ⟨opening, inner, closing, Token.isSymbol_iff.1 hopening, hinner,
      Token.isSymbol_iff.1 hclosing, htokens⟩
  · intro ⟨opening, inner, closing, hopening, hinner, hclosing, htokens⟩
    refine ⟨opening, _, Token.isSymbol_iff.2 hopening, ?_, htokens⟩
    refine ⟨statements, inner, _, hinner, Rule.sequence_single.2 ?_, rfl⟩
    exact ⟨closing, [], Token.isSymbol_iff.2 hclosing, ⟨rfl, rfl⟩, rfl⟩

/-- The rule of a block, made of the rules of its parts. -/
def blockParts (outer : Nat) : Rule (List Statement) :=
  (symbolRule .braceOpen).bind fun _ =>
  ((statementRule outer).many fun next => next.any (Token.isSymbol .braceClose) = true).bind
    fun found => (symbolRule .braceClose).bind fun _ => .pure found

/-- Reading a block follows the rules of its parts if reading its statements follows theirs. -/
theorem blockParts_follows {outer : Nat} {statement : Parse (Option Statement)}
    (hstatement : Follows statement (statementRule outer)) (role : BlockRole) :
    Follows (block statement role) (blockParts outer) := by
  have hmany : Follows (collect blockEnds statement)
      ((statementRule outer).many fun next => next.any (Token.isSymbol .braceClose) = true) := by
    refine collect_follows blockEnds_decides hstatement ?_ ?_
    · intro tokens statement hphrase
      obtain ⟨first, rest, rfl, hclose, hequal, helse, -⟩ := statementOf_first hphrase
      exact ⟨first, rest, rfl, by simp [hclose], by simp [statementRule, NotNext, hequal, helse]⟩
    · intro next hnext
      obtain ⟨token, rfl, htoken⟩ := (Option.any_eq_true _ _).1 hnext
      have hkind := Token.isSymbol_iff.1 htoken
      simp [statementRule, NotNext, Token.isSymbol, Token.isKeyword, hkind]
  have hclosing : ∀ found, Follows
      (do let _ ← expect (Token.isSymbol .braceClose) (.blockClose role)
          leave
          return found : Parse (List Statement))
      ((symbolRule .braceClose).bind fun _ => .pure found) := fun found =>
    .bind (fun _ => trivial) (symbol_follows _ _) fun _ => .quiet_bind leave_quiet (pure_follows _)
  refine .quiet_bind (enter_quiet _) <| .bind (fun _ => trivial) (symbol_follows _ _) fun _ =>
    fun parser => .bind ?_ (hmany parser) fun found behind _ => hclosing found behind
  -- The statements can only end where a closing brace is next, so that is what stands behind them.
  intro found back value rest hback _
  obtain ⟨closing, _, hclose, -, rfl⟩ := Rule.sequence_single.1 hback
  exact hclose

/-- What breaks the limit within the parts of a block breaks it for the block. -/
theorem blockParts_excess {outer : Nat} {tokens : List Token} {error : SyntaxError}
    (h : (blockParts outer).excess tokens error) : (blockRule outer).excess tokens error := by
  intro braces branch hbraces
  show Overnested (nesting braces branch) tokens error
  rcases h with ⟨⟨⟩⟩ | ⟨opening, _, _, ⟨rfl, hopening⟩, hinner, rfl⟩
  rcases hinner with ⟨found, front, back, hfront, hback, rfl⟩ | ⟨_, _, _, -, hclosing, -⟩
  · obtain ⟨hfront, hshallow⟩ := many_limited_iff.1 hfront
    have hscan : nesting braces branch ((opening :: front) ++ back) =
        Statement.depthsIn outer found ++ nesting (branch :: braces) false back := by
      rw [List.cons_append, nesting_open _ _ _ (Token.isSymbol_iff.1 hopening),
        hfront.nesting_append, hbraces]
    exact (hback _ hbraces).behind hscan hshallow
  · simp [symbolRule, Rule.token, Rule.bind, Rule.pure] at hclosing

/-- A block follows its rule if its statements follow theirs. -/
theorem block_follows {outer : Nat} {statement : Parse (Option Statement)}
    (hstatement : Follows statement (statementRule outer)) (role : BlockRole) :
    Follows (block statement role) (blockRule outer) := by
  intro parser
  refine (blockParts_follows hstatement role parser).widen (Rule.narrows_of_iff _ ?_ ?_ ?_ ?_)
  · exact fun _ _ => sequence_block.trans blockOf_iff.symm
  · exact fun _ _ => sequence_block.trans block_limited_iff.symm
  · exact fun _ _ _ _ _ => trivial
  · exact fun _ _ => blockParts_excess

/-! ## Conditionals -/

/-- Tokens are a second branch, if there is one, whatever blocks are. -/
def AlternativeWith (block : List Token → List Statement → Prop) (tokens : List Token)
    (statements : List Statement) : Prop :=
  (∃ word inner, word.kind = .keyword .elseWord ∧ block inner statements ∧ tokens = word :: inner) ∨
    tokens = [] ∧ statements = []

/-- An alternative is what its block makes of it. -/
theorem alternativeOf_iff {tokens : List Token} {statements : List Statement} :
    AlternativeOf tokens statements ↔ AlternativeWith BlockOf tokens statements := by
  constructor
  · intro h
    cases h with
    | none => exact .inr ⟨rfl, rfl⟩
    | some hword hblock => exact .inl ⟨_, _, hword, hblock, rfl⟩
  · intro h
    rcases h with ⟨word, block, hword, hblock, rfl⟩ | ⟨rfl, rfl⟩
    · exact .some hword hblock
    · exact .none

/-- An alternative is within the limit if its statements are not too deep. -/
theorem alternative_limited_iff {outer : Nat} {tokens : List Token} {statements : List Statement} :
    AlternativeWith (blockRule outer).limited tokens statements ↔
      AlternativeOf tokens statements ∧ Statement.Shallow outer statements := by
  rw [alternativeOf_iff]
  constructor
  · intro h
    rcases h with ⟨word, block, hword, ⟨hblock, hshallow⟩, rfl⟩ | ⟨rfl, rfl⟩
    · exact ⟨.inl ⟨word, block, hword, hblock, rfl⟩, hshallow⟩
    · exact ⟨.inr ⟨rfl, rfl⟩, Statement.shallow_nil outer⟩
  · intro ⟨h, hshallow⟩
    rcases h with ⟨word, block, hword, hblock, rfl⟩ | ⟨rfl, rfl⟩
    · exact .inl ⟨word, block, hword, ⟨hblock, hshallow⟩, rfl⟩
    · exact .inr ⟨rfl, rfl⟩

/-- Tokens are a conditional, whatever blocks are. -/
def ConditionalWith (block : List Token → List Statement → Prop) (tokens : List Token)
    (statement : Statement) : Prop :=
  ∃ word operand branch rest condition whenTrue whenFalse, word.kind = .keyword .ifWord ∧
    OperandOf operand condition ∧ block branch whenTrue ∧ AlternativeWith block rest whenFalse ∧
    tokens = word :: operand :: (branch ++ rest) ∧
    statement = .conditional condition whenTrue whenFalse

/-- A conditional is what its blocks make of it. -/
theorem conditionalOf_iff {tokens : List Token} {statement : Statement} :
    ConditionalOf tokens statement ↔ ConditionalWith BlockOf tokens statement := by
  constructor
  · intro h
    obtain ⟨hword, hoperand, hblock, halternative⟩ := h
    exact ⟨_, _, _, _, _, _, _, hword, hoperand, hblock, alternativeOf_iff.1 halternative,
      rfl, rfl⟩
  · intro ⟨word, operand, branch, rest, condition, whenTrue, whenFalse, hword, hoperand, hblock,
      halternative, htokens, hstatement⟩
    subst htokens hstatement
    exact .intro hword hoperand hblock (alternativeOf_iff.2 halternative)

/-- A conditional that is allowed is within the limit if and only if its blocks are, one conditional
further in. -/
theorem conditional_limited_iff {outer : Nat} (houter : outer < Limits.nestingDepth)
    {tokens : List Token} {statement : Statement} :
    (conditionalRule outer).limited tokens statement ↔
      ConditionalWith (blockRule (outer + 1)).limited tokens statement := by
  constructor
  · intro ⟨h, hshallow⟩
    obtain ⟨hword, hoperand, hblock, halternative⟩ := h
    obtain ⟨-, hshallow, hshallow'⟩ := Statement.shallow_conditional.1 hshallow
    exact ⟨_, _, _, _, _, _, _, hword, hoperand, ⟨hblock, hshallow⟩,
      alternative_limited_iff.2 ⟨halternative, hshallow'⟩, rfl, rfl⟩
  · intro ⟨word, operand, branch, rest, condition, whenTrue, whenFalse, hword, hoperand,
      ⟨hblock, hshallow⟩, halternative, htokens, hstatement⟩
    subst htokens hstatement
    obtain ⟨halternative, hshallow'⟩ := alternative_limited_iff.1 halternative
    exact ⟨.intro hword hoperand hblock halternative,
      Statement.shallow_conditional.2 ⟨houter, hshallow, hshallow'⟩⟩

/-- The rules of the parts of a conditional, one behind the other, read a conditional. -/
theorem sequence_conditional {block : List Token → List Statement → Prop} {tokens : List Token}
    {statement : Statement} :
    Rule.Sequence (Rule.Single (Token.isKeyword .ifWord)) (fun _ =>
      Rule.Sequence (Rule.Changed Expression.ofOperand (Rule.Single Expression.isOperand))
        fun condition => Rule.Sequence block fun whenTrue tokens statement =>
          Rule.Sequence (Rule.Single (Token.isKeyword .elseWord)) (fun _ =>
            Rule.Sequence block fun whenFalse =>
              Rule.Nothing (.conditional condition whenTrue whenFalse)) tokens statement ∨
          Rule.Nothing (.conditional condition whenTrue []) tokens statement) tokens statement ↔
    ConditionalWith block tokens statement := by
  simp only [Rule.sequence_single, Rule.sequence_changed, Token.isKeyword_iff]
  constructor
  · intro ⟨word, _, hword, ⟨operand, _, hoperand, hbranches, hrest⟩, htokens⟩
    subst htokens hrest
    obtain ⟨whenTrue, branch, _, hblock, halternative, rfl⟩ := hbranches
    have hcondition := operandOf_iff.2 ⟨hoperand, rfl⟩
    rcases halternative with ⟨other, _, hother, hback, rfl⟩ | ⟨rfl, rfl⟩
    · obtain ⟨whenFalse, branch', _, hblock', ⟨rfl, rfl⟩, rfl⟩ := hback
      exact ⟨word, operand, branch, _, _, whenTrue, whenFalse, hword, hcondition, hblock,
        .inl ⟨other, branch', hother, hblock', rfl⟩, by simp, rfl⟩
    · exact ⟨word, operand, branch, [], _, whenTrue, [], hword, hcondition, hblock,
        .inr ⟨rfl, rfl⟩, rfl, rfl⟩
  · intro ⟨word, operand, branch, rest, condition, whenTrue, whenFalse, hword, hoperand, hblock,
      halternative, htokens, hstatement⟩
    subst htokens hstatement
    obtain ⟨haccepted, rfl⟩ := operandOf_iff.1 hoperand
    refine ⟨word, _, hword, ⟨operand, _, haccepted, ?_, rfl⟩, rfl⟩
    refine ⟨whenTrue, branch, rest, hblock, ?_, rfl⟩
    rcases halternative with ⟨other, branch', hother, hblock', rfl⟩ | ⟨rfl, rfl⟩
    · exact .inl ⟨other, _, hother, ⟨whenFalse, branch', [], hblock', ⟨rfl, rfl⟩, by simp⟩, rfl⟩
    · exact .inr ⟨rfl, rfl⟩

/-- A conditional in as many others as are allowed breaks the limit with its first token. -/
theorem conditional_overrun : Follows (conditional none) (conditionalRule Limits.nestingDepth) := by
  refine .quiet_bind (enter_quiet _) <| .overrun (fun _ => trivial)
    (keyword_follows .ifWord .conditionalKeyword) (fun _ _ h => h) ?_ ?_ ?_ ?_
  · intro tokens statement h
    obtain ⟨hword, -, -, -⟩ := h
    exact ⟨[_], _, _, ⟨rfl, Token.isKeyword_iff.2 hword⟩, rfl⟩
  · intro front word hfront
    obtain ⟨rfl, hword⟩ := hfront
    exact ⟨by simp, exists_conditionalOf (Token.isKeyword_iff.1 hword)⟩
  · -- The `if` is the first token, so no other comes before it.
    intro front word hfront braces hbraces
    obtain ⟨rfl, hword⟩ := hfront
    have hkind := Token.isKeyword_iff.1 hword
    show Overnested (nesting braces false) [word] _
    refine ⟨[], word, [], rfl, hkind, rfl, ?_, by simp⟩
    rw [nesting_if _ _ _ hkind, hbraces]
    rfl
  · intro tokens statement h
    obtain ⟨⟨hword, -, -, -⟩, hshallow⟩ := h
    exact absurd (Statement.shallow_conditional.1 hshallow).1 (Nat.lt_irrefl _)

/-- The rule of a conditional whose branches lie in `inner` conditionals, made of the rules of its
parts. -/
def conditionalParts (inner : Nat) : Rule Statement :=
  (keywordRule .ifWord).bind fun _ =>
  (operandRule.map Expression.ofOperand).bind fun condition =>
  (blockRule inner).bind fun whenTrue =>
  ((keywordRule .elseWord).bind fun _ => (blockRule inner).bind fun whenFalse =>
    .pure (.conditional condition whenTrue whenFalse)).choice
    (.pure (.conditional condition whenTrue [])) (NotNext (Token.isKeyword .elseWord))

/-- Reading a conditional follows the rules of its parts if reading its statements follows
theirs. -/
theorem conditionalParts_follows {inner : Nat} {statement : Parse (Option Statement)}
    (hstatement : Follows statement (statementRule inner)) :
    Follows (conditional (some statement)) (conditionalParts inner) := by
  refine .quiet_bind (enter_quiet _) <|
    .bind (fun _ => trivial) (keyword_follows _ _) fun _ => leaving_follows <|
    .bind (fun _ => trivial) expression_follows fun condition =>
    .bind (fun _ => trivial) (block_follows hstatement _) fun whenTrue =>
    .choice_advance _ (fun _ => .bind (fun _ => trivial) (block_follows hstatement _)
      fun whenFalse => pure_follows _) (pure_follows _)
      (fun _ _ => ⟨fun _ _ => trivial, trivial⟩) ?_
  intro tokens value rest hphrase hrest
  obtain ⟨rfl, -⟩ := hphrase
  exact hrest

/-- In front of its branches, a conditional only has its own `if`. -/
theorem nesting_condition (braces : List Bool) {word operand : Token} {condition : Expression}
    (hword : word.kind = .keyword .ifWord) (hoperand : OperandOf operand condition)
    (back : List Token) :
    nesting braces false ([word, operand] ++ back) =
      [braces.count true] ++ nesting braces true back := by
  show nesting braces false (word :: operand :: back) =
    braces.count true :: nesting braces true back
  rw [nesting_if _ _ _ hword, nesting_plain _ _ _ hoperand.plain]

/-- What breaks the limit within the parts of a conditional that is allowed breaks it for the
conditional. -/
theorem conditionalParts_excess {outer : Nat} (houter : outer < Limits.nestingDepth)
    {tokens : List Token} {error : SyntaxError}
    (h : (conditionalParts (outer + 1)).excess tokens error) :
    (conditionalRule outer).excess tokens error := by
  intro braces hbraces
  show Overnested (nesting braces false) tokens error
  rcases h with ⟨⟨⟩⟩ | ⟨word, _, _, ⟨rfl, hword⟩, hrest, rfl⟩
  rcases hrest with ⟨⟨⟩⟩ | ⟨_, _, _, ⟨operand, ⟨rfl, hoperand⟩, rfl⟩, hbranches, rfl⟩
  have hinside : (true :: braces).count true = outer + 1 := by simp [hbraces]
  have hcondition := nesting_condition braces (Token.isKeyword_iff.1 hword)
    (operandOf_iff.2 ⟨hoperand, rfl⟩)
  have hhere : ∀ depth ∈ [braces.count true], depth < Limits.nestingDepth := by
    simpa [hbraces] using houter
  rcases hbranches with hblock | ⟨whenTrue, branch, _, ⟨hblock, hshallow⟩, halternative, rfl⟩
  -- The limit is broken in the first branch.
  · exact (hblock braces true hinside).behind (hcondition _) hhere
  -- The first branch is within the limits, so the limit is broken in the second one.
  · rcases halternative with (⟨⟨⟩⟩ | ⟨other, _, back, ⟨rfl, hother⟩, hback, rfl⟩) | ⟨⟨⟩⟩
    rcases hback with hback | ⟨_, _, _, -, ⟨⟩, -⟩
    have hscan : nesting braces true ((branch ++ [other]) ++ back) =
        Statement.depthsIn (outer + 1) whenTrue ++ nesting braces true back := by
      rw [List.append_assoc, hblock.nesting_append, hinside, List.singleton_append,
        nesting_else _ _ _ (Token.isKeyword_iff.1 hother)]
    have hover := (hback braces true hinside).behind hscan hshallow
    rw [List.append_assoc] at hover
    exact hover.behind (hcondition _) hhere

/-- Reading a conditional that is allowed follows its rule if reading its statements follows
theirs. -/
theorem conditional_follows {outer : Nat} {statement : Parse (Option Statement)}
    (houter : outer < Limits.nestingDepth)
    (hstatement : Follows statement (statementRule (outer + 1))) :
    Follows (conditional (some statement)) (conditionalRule outer) := by
  intro parser
  refine (conditionalParts_follows hstatement parser).widen (Rule.narrows_of_iff _ ?_ ?_ ?_ ?_)
  · exact fun _ _ => sequence_conditional.trans conditionalOf_iff.symm
  · exact fun _ _ => sequence_conditional.trans (conditional_limited_iff houter).symm
  · exact fun _ hfollow _ _ _ => hfollow
  · exact fun _ _ => conditionalParts_excess houter

/-! ## Statements -/

/-- Tokens are a statement, whatever conditionals are. -/
def StatementWith (conditional : List Token → Statement → Prop) (tokens : List Token)
    (statement : Option Statement) : Prop :=
  (∃ declared, DeclarationOf tokens declared ∧ statement = some (.declaration declared)) ∨
    (∃ content, conditional tokens content ∧ statement = some content) ∨
    (∃ semicolon, semicolon.kind = .symbol .semicolon ∧ tokens = [semicolon] ∧ statement = none) ∨
    ∃ operand semicolon expression, OperandOf operand expression ∧
      semicolon.kind = .symbol .semicolon ∧ tokens = [operand, semicolon] ∧
      statement = some (.expression expression)

/-- A statement is what its conditionals make of it. -/
theorem statementOf_iff {tokens : List Token} {statement : Option Statement} :
    StatementOf tokens statement ↔ StatementWith ConditionalOf tokens statement := by
  constructor
  · intro h
    cases h with
    | declaration hdeclared => exact .inl ⟨_, hdeclared, rfl⟩
    | conditional hcontent => exact .inr (.inl ⟨_, hcontent, rfl⟩)
    | empty hsemicolon => exact .inr (.inr (.inl ⟨_, hsemicolon, rfl, rfl⟩))
    | expression hoperand hsemicolon =>
      exact .inr (.inr (.inr ⟨_, _, _, hoperand, hsemicolon, rfl, rfl⟩))
  · intro h
    rcases h with h | h | h | h
    · obtain ⟨declared, hdeclared, rfl⟩ := h
      exact .declaration hdeclared
    · obtain ⟨content, hcontent, rfl⟩ := h
      exact .conditional hcontent
    · obtain ⟨semicolon, hsemicolon, rfl, rfl⟩ := h
      exact .empty hsemicolon
    · obtain ⟨operand, semicolon, expression, hoperand, hsemicolon, rfl, rfl⟩ := h
      exact .expression hoperand hsemicolon

/-- A statement is within the limit if and only if the conditional that it may be is. -/
theorem statement_limited_iff {outer : Nat} {tokens : List Token} {statement : Option Statement} :
    (statementRule outer).limited tokens statement ↔
      StatementWith (conditionalRule outer).limited tokens statement := by
  constructor
  · intro ⟨h, hshallow⟩
    cases h with
    | declaration hdeclared => exact .inl ⟨_, hdeclared, rfl⟩
    | conditional hcontent => exact .inr (.inl ⟨_, ⟨hcontent, hshallow⟩, rfl⟩)
    | empty hsemicolon => exact .inr (.inr (.inl ⟨_, hsemicolon, rfl, rfl⟩))
    | expression hoperand hsemicolon =>
      exact .inr (.inr (.inr ⟨_, _, _, hoperand, hsemicolon, rfl, rfl⟩))
  · intro h
    rcases h with h | h | h | h
    · obtain ⟨declared, hdeclared, rfl⟩ := h
      exact ⟨.declaration hdeclared, Statement.shallow_declaration outer declared⟩
    · obtain ⟨content, ⟨hcontent, hshallow⟩, rfl⟩ := h
      exact ⟨.conditional hcontent, hshallow⟩
    · obtain ⟨semicolon, hsemicolon, rfl, rfl⟩ := h
      exact ⟨.empty hsemicolon, Statement.shallow_nil outer⟩
    · obtain ⟨operand, semicolon, expression, hoperand, hsemicolon, rfl, rfl⟩ := h
      exact ⟨.expression hoperand hsemicolon, Statement.shallow_expression outer expression⟩

/-- The rules of the sorts of statements read one of these. -/
theorem choice_statement {conditional : List Token → Statement → Prop} {tokens : List Token}
    {statement : Option Statement} :
    (Rule.Changed (fun declared => some (.declaration declared)) DeclarationOf tokens statement ∨
      Rule.Changed some conditional tokens statement ∨
      Rule.Sequence (Rule.Single (Token.isSymbol .semicolon)) (fun _ => Rule.Nothing none) tokens
        statement ∨
      Rule.Changed some (Rule.Sequence
        (Rule.Changed Expression.ofOperand (Rule.Single Expression.isOperand)) fun expression =>
          Rule.Sequence (Rule.Single (Token.isSymbol .semicolon)) fun _ =>
            Rule.Nothing (.expression expression)) tokens statement) ↔
    StatementWith conditional tokens statement := by
  refine or_congr Iff.rfl (or_congr Iff.rfl (or_congr ?_ ?_))
  · rw [Rule.sequence_single]
    constructor
    · intro ⟨semicolon, _, hsemicolon, ⟨rfl, hstatement⟩, htokens⟩
      exact ⟨semicolon, Token.isSymbol_iff.1 hsemicolon, htokens, hstatement⟩
    · intro ⟨semicolon, hsemicolon, htokens, hstatement⟩
      exact ⟨semicolon, [], Token.isSymbol_iff.2 hsemicolon, ⟨rfl, hstatement⟩, htokens⟩
  · constructor
    · intro ⟨_, h, hstatement⟩
      obtain ⟨operand, _, hoperand, hback, htokens⟩ :=
        Rule.sequence_single.1 (Rule.sequence_changed.1 h)
      obtain ⟨semicolon, _, hsemicolon, ⟨rfl, rfl⟩, rfl⟩ := Rule.sequence_single.1 hback
      exact ⟨operand, semicolon, _, operandOf_iff.2 ⟨hoperand, rfl⟩,
        Token.isSymbol_iff.1 hsemicolon, htokens, hstatement⟩
    · intro ⟨operand, semicolon, expression, hoperand, hsemicolon, htokens, hstatement⟩
      obtain ⟨haccepted, rfl⟩ := operandOf_iff.1 hoperand
      refine ⟨_, Rule.sequence_changed.2 (Rule.sequence_single.2 ?_), hstatement⟩
      exact ⟨operand, [semicolon], haccepted, Rule.sequence_single.2
        ⟨semicolon, [], Token.isSymbol_iff.2 hsemicolon, ⟨rfl, rfl⟩, rfl⟩, htokens⟩

/-- The rule of a statement that no keyword introduces. -/
def simpleParts (outer : Nat) : Rule (Option Statement) :=
  ((symbolRule .semicolon).bind fun _ => .pure none).choice (expressionStatementRule.map some)
    (statementRule outer).follow

/-- Reading a semicolon or an expression with one follows the rules of these. -/
theorem simpleParts_follows (outer : Nat) :
    Follows (do if ← nextIs (Token.isSymbol .semicolon) then
                  let _ ← advance
                  return none
                else return some (← expressionStatement)) (simpleParts outer) := by
  refine .choice_advance _ (fun _ => pure_follows _)
    (fun parser => (expressionStatement_follows parser).map some)
    (fun _ _ => ⟨fun _ => trivial, fun _ _ => trivial⟩) ?_
  intro tokens value rest hphrase _
  obtain ⟨_, hphrase, -⟩ := hphrase
  obtain ⟨first, _, rfl, hsymbol, -⟩ := expressionStatement_first hphrase
  exact hsymbol .semicolon

/-- No keyword begins a semicolon or an expression with one. -/
theorem simpleParts_first {outer : Nat} {tokens : List Token} {statement : Option Statement}
    (h : (simpleParts outer).phrase tokens statement) (rest : List Token) (keyword : Keyword) :
    (tokens ++ rest).head?.any (Token.isKeyword keyword) = false := by
  rcases h with h | ⟨_, h, -⟩
  · obtain ⟨semicolon, _, hsemicolon, -, rfl⟩ := Rule.sequence_single.1 h
    simp [Token.isKeyword, Token.isSymbol_iff.1 hsemicolon]
  · obtain ⟨first, _, rfl, -, hkeyword⟩ := expressionStatement_first h
    exact hkeyword keyword

/-- The rule of a statement, made of the rules of its kinds. -/
def statementParts (outer : Nat) : Rule (Option Statement) :=
  (declarationRule.map fun declared => some (.declaration declared)).choice
    (((conditionalRule outer).map some).choice (simpleParts outer) (statementRule outer).follow)
    (statementRule outer).follow

/-- Reading a statement follows the rules of its sorts if reading a conditional follows its rule. -/
theorem statementParts_follows {outer : Nat} {nested : Option (Parse (Option Statement))}
    (hconditional : Follows (conditional nested) (conditionalRule outer)) :
    Follows (statementWith nested) (statementParts outer) := by
  refine .choice (fun parser => (declaration_follows parser).map _)
    (.choice (fun parser => (hconditional parser).map _) (simpleParts_follows outer)
      (fun _ hfollow => ⟨hfollow.2, hfollow⟩) ?_ ?_)
    (fun _ hfollow => ⟨hfollow.1, hfollow⟩) ?_ ?_
  · intro tokens value rest hphrase _
    obtain ⟨_, ⟨hword, -, -, -⟩, -⟩ := hphrase
    exact Token.isKeyword_iff.2 hword
  · exact fun tokens value rest hphrase _ => simpleParts_first hphrase rest .ifWord
  · intro tokens value rest hphrase _
    obtain ⟨_, ⟨hword, -, -, -⟩, -⟩ := hphrase
    exact Token.isKeyword_iff.2 hword
  · intro tokens value rest hphrase _
    rcases hphrase with ⟨_, ⟨hword, -, -, -⟩, -⟩ | hphrase
    · simp [Token.isKeyword, hword]
    · exact simpleParts_first hphrase rest .letWord

/-- What breaks the limit within the sorts of statements breaks it for the statement. -/
theorem statementParts_excess {outer : Nat} {tokens : List Token} {error : SyntaxError}
    (h : (statementParts outer).excess tokens error) :
    (statementRule outer).excess tokens error := by
  -- Of the kinds of statements, only conditionals have limits.
  simpa [statementParts, simpleParts, Rule.choice, Rule.map, Rule.bind, Rule.pure, Rule.token,
    declarationRule, conditionalRule, symbolRule, operandRule, expressionStatementRule,
    statementRule] using h

/-- A statement follows its rule if conditionals follow theirs. -/
theorem statementWith_follows {outer : Nat} {nested : Option (Parse (Option Statement))}
    (hconditional : Follows (conditional nested) (conditionalRule outer)) :
    Follows (statementWith nested) (statementRule outer) := by
  intro parser
  refine (statementParts_follows hconditional parser).widen (Rule.narrows_of_iff _ ?_ ?_ ?_ ?_)
  · exact fun _ _ => choice_statement.trans statementOf_iff.symm
  · exact fun _ _ => choice_statement.trans statement_limited_iff.symm
  · exact fun _ hfollow => hfollow
  · exact fun _ _ => statementParts_excess

/-- A statement that lies in `outer` conditionals follows its rule if it is read with as many levels
left as there are. -/
theorem statement_follows {levels outer : Nat} (h : outer + levels = Limits.nestingDepth) :
    Follows (statement levels) (statementRule outer) := by
  -- Around and further down there are as many levels as allowed; with none left below, the next
  -- conditional is one too many.
  induction levels generalizing outer with
  | zero =>
    obtain rfl : outer = Limits.nestingDepth := by omega
    exact statementWith_follows conditional_overrun
  | succ levels ih =>
    have houter : outer < Limits.nestingDepth := by omega
    have hinner : outer + 1 + levels = Limits.nestingDepth := by omega
    exact statementWith_follows (conditional_follows houter (ih hinner))

end Parse

end VinylSyntax
