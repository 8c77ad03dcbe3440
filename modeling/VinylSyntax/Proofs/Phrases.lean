import VinylSyntax.Parser.Basic
import VinylSyntax.Proofs.Follows
import VinylSyntax.Proofs.Grammar

/-!
# Phrases without limits

The rules of single tokens, of arguments and of declarations, and that the parser follows them. None
of them has a limit that could be broken.
-/

namespace VinylSyntax

open Grammar

namespace Token

/-- Some token of a kind. -/
def ofKind (kind : TokenKind) : Token := ⟨kind, "", default⟩

/-- A token is a keyword if its kind is that of the keyword. -/
theorem isKeyword_iff {token : Token} {keyword : Keyword} :
    token.isKeyword keyword = true ↔ token.kind = .keyword keyword := by
  simp [isKeyword]

/-- A token is a symbol if its kind is that of the symbol. -/
theorem isSymbol_iff {token : Token} {symbol : Symbol} :
    token.isSymbol symbol = true ↔ token.kind = .symbol symbol := by
  simp [isSymbol]

/-- A token is an identifier if its kind is that of identifiers. -/
theorem isIdentifier_iff {token : Token} :
    token.isIdentifier = true ↔ token.kind = .identifier := by
  simp [isIdentifier]

end Token

namespace Grammar

/-- No operand is a keyword. -/
theorem OperandOf.isKeyword_eq {token : Token} {expression : Expression}
    (h : OperandOf token expression) (keyword : Keyword) : token.isKeyword keyword = false := by
  cases h with
  | identifier hkind => simp [Token.isKeyword, hkind]
  | integer hkind => simp [Token.isKeyword, hkind]
  | float hkind => simp [Token.isKeyword, hkind]

/-- No operand is a symbol. -/
theorem OperandOf.isSymbol_eq {token : Token} {expression : Expression}
    (h : OperandOf token expression) (symbol : Symbol) : token.isSymbol symbol = false := by
  cases h with
  | identifier hkind => simp [Token.isSymbol, hkind]
  | integer hkind => simp [Token.isSymbol, hkind]
  | float hkind => simp [Token.isSymbol, hkind]

end Grammar

namespace Parse

/-! ## Single tokens -/

/-- The rule of a keyword. -/
def keywordRule (keyword : Keyword) : Rule Token :=
  .token (Token.isKeyword keyword) ⟨.ofKind (.keyword keyword), Token.isKeyword_iff.2 rfl⟩

/-- The rule of a symbol. -/
def symbolRule (symbol : Symbol) : Rule Token :=
  .token (Token.isSymbol symbol) ⟨.ofKind (.symbol symbol), Token.isSymbol_iff.2 rfl⟩

/-- The rule of an identifier. -/
def identifierRule : Rule Token := .token Token.isIdentifier ⟨.ofKind .identifier, rfl⟩

/-- The rule of an operand, read as a token. -/
def operandRule : Rule Token := .token Expression.isOperand ⟨.ofKind .identifier, rfl⟩

/-- A token is derived as an operand if it is one, and the expression is made of it. -/
theorem operandOf_iff {token : Token} {expression : Expression} :
    OperandOf token expression ↔
      Expression.isOperand token = true ∧ expression = .ofOperand token := by
  constructor
  · intro h
    cases h with
    | identifier hkind => simp [Expression.isOperand, Expression.ofOperand, hkind]
    | integer hkind => simp [Expression.isOperand, Expression.ofOperand, hkind]
    | float hkind => simp [Expression.isOperand, Expression.ofOperand, hkind]
  · intro ⟨hoperand, hexpression⟩
    subst hexpression
    unfold Expression.isOperand at hoperand
    unfold Expression.ofOperand
    split at hoperand
    · next hkind => simpa [hkind] using OperandOf.identifier hkind
    · next literal hkind => simpa [hkind] using OperandOf.integer hkind
    · next literal hkind => simpa [hkind] using OperandOf.float hkind
    · cases hoperand

/-- Expecting a keyword follows its rule. -/
theorem keyword_follows (keyword : Keyword) (expected : Expectation) :
    Follows (expect (Token.isKeyword keyword) expected) (keywordRule keyword) :=
  expect_follows _ expected _

/-- Expecting a symbol follows its rule. -/
theorem symbol_follows (symbol : Symbol) (expected : Expectation) :
    Follows (expect (Token.isSymbol symbol) expected) (symbolRule symbol) :=
  expect_follows _ expected _

/-- Reading an identifier follows its rule. -/
theorem identifier_follows (expected : Expectation) :
    Follows (identifier expected) (identifierRule.map Identifier.mk) :=
  fun parser => (expect_follows _ expected _ parser).map Identifier.mk

/-- Reading the name of a type follows the rule of identifiers. -/
theorem typeName_follows (expected : Expectation) :
    Follows (typeName expected) (identifierRule.map TypeName.mk) :=
  fun parser => (expect_follows _ expected _ parser).map TypeName.mk

/-- Reading an expression follows the rule of operands. -/
theorem expression_follows : Follows expression (operandRule.map .ofOperand) :=
  fun parser => (expect_follows _ .operand _ parser).map Expression.ofOperand

/-! ## Arguments and declarations -/

/-- The rule of an argument. -/
def argumentRule : Rule Argument where
  phrase := ArgumentOf
  limited := ArgumentOf
  follow _ := True
  excess _ _ := False
  phrase_of_limited h := h
  productive := ⟨[.ofKind .identifier, .ofKind .identifier], _, .intro rfl rfl⟩

/-- Reading an argument follows its rule. -/
theorem argument_follows : Follows argument argumentRule := by
  have h : Follows argument ((identifierRule.map Identifier.mk).bind fun name =>
      (identifierRule.map TypeName.mk).bind fun type => .pure ⟨name, type⟩) :=
    .quiet_bind (enter_quiet _) <|
      .bind (fun _ => trivial) (identifier_follows _) fun name =>
      .bind (fun _ => trivial) (typeName_follows _) fun type =>
      .quiet_bind leave_quiet (pure_follows _)
  refine fun parser =>
    (h parser).widen (Rule.narrows_of_free _ ?_ rfl rfl (fun _ _ _ _ => trivial) ?_)
  · intro tokens argument
    simp only [Rule.bind, Rule.map, identifierRule, Rule.token, Rule.pure, Rule.sequence_changed,
      Rule.sequence_single, Token.isIdentifier_iff]
    constructor
    · intro h
      obtain ⟨name, _, hname, ⟨type, _, htype, ⟨rfl, rfl⟩, rfl⟩, rfl⟩ := h
      exact ArgumentOf.intro hname htype
    · intro h
      obtain ⟨hname, htype⟩ := h
      exact ⟨_, _, hname, ⟨_, _, htype, ⟨rfl, rfl⟩, rfl⟩, rfl⟩
  · simp [Rule.bind, Rule.map, identifierRule, Rule.token, Rule.pure]

/-- The next token, if there is one, is not accepted. -/
def NotNext (accept : Token → Bool) (next : Option Token) : Prop := next.any accept = false

/-- The rule of a declaration. Behind one without a value, no value may stand. -/
def declarationRule : Rule Declaration where
  phrase := DeclarationOf
  limited := DeclarationOf
  follow := NotNext (Token.isSymbol .equal)
  excess _ _ := False
  phrase_of_limited h := h
  productive :=
    ⟨[.ofKind (.keyword .letWord), .ofKind .identifier, .ofKind .identifier], _,
      .intro rfl rfl rfl .none⟩

/-- The rule of a declaration, made of the rules of its parts. -/
def declarationParts : Rule Declaration :=
  (keywordRule .letWord).bind fun _ =>
  (identifierRule.map Identifier.mk).bind fun name =>
  (identifierRule.map TypeName.mk).bind fun type =>
  ((symbolRule .equal).bind fun _ => (operandRule.map Expression.ofOperand).bind fun value =>
    .pure ⟨name, type, some value⟩).choice (.pure ⟨name, type, none⟩)
    (NotNext (Token.isSymbol .equal))

/-- Reading a declaration follows the rules of its parts. -/
theorem declarationParts_follows : Follows declaration declarationParts := by
  refine .quiet_bind (enter_quiet _) <|
    .bind (fun _ => trivial) (keyword_follows _ _) fun _ =>
    .bind (fun _ => trivial) (identifier_follows _) fun name =>
    .bind (fun _ => trivial) (typeName_follows _) fun type =>
    .choice_advance _ (fun _ => .bind (fun _ => trivial) expression_follows fun value =>
      .quiet_bind leave_quiet (pure_follows _)) (.quiet_bind leave_quiet (pure_follows _))
      (fun _ _ => ⟨fun _ _ => trivial, trivial⟩) ?_
  intro tokens value rest hphrase hrest
  obtain ⟨rfl, -⟩ := hphrase
  exact hrest

/-- The rules of the parts of a declaration, one behind the other, read a declaration. -/
theorem declarationParts_phrase_iff {tokens : List Token} {declared : Declaration} :
    declarationParts.phrase tokens declared ↔ DeclarationOf tokens declared := by
  simp only [declarationParts, Rule.bind, Rule.map, Rule.choice, keywordRule, symbolRule,
    identifierRule, operandRule, Rule.token, Rule.pure, Rule.sequence_changed, Rule.sequence_single,
    Token.isIdentifier_iff, Token.isKeyword_iff, Token.isSymbol_iff]
  constructor
  · intro h
    obtain ⟨word, _, hword, ⟨name, _, hname, ⟨type, _, htype, hvalue, rfl⟩, rfl⟩, rfl⟩ := h
    rcases hvalue with hvalue | ⟨rfl, rfl⟩
    · obtain ⟨equal, _, hequal, ⟨operand, _, hoperand, ⟨rfl, rfl⟩, rfl⟩, rfl⟩ := hvalue
      exact DeclarationOf.intro hword hname htype (.some hequal (operandOf_iff.2 ⟨hoperand, rfl⟩))
    · exact DeclarationOf.intro hword hname htype .none
  · intro h
    obtain ⟨hword, hname, htype, hvalue⟩ := h
    refine ⟨_, _, hword, ⟨_, _, hname, ⟨_, _, htype, ?_, rfl⟩, rfl⟩, rfl⟩
    cases hvalue with
    | none => exact .inr ⟨rfl, rfl⟩
    | some hequal hoperand =>
      obtain ⟨haccepted, rfl⟩ := operandOf_iff.1 hoperand
      exact .inl ⟨_, _, hequal, ⟨_, _, haccepted, ⟨rfl, rfl⟩, rfl⟩, rfl⟩

/-- Reading a declaration follows its rule. -/
theorem declaration_follows : Follows declaration declarationRule := by
  intro parser
  refine (declarationParts_follows parser).widen (Rule.narrows_of_free _ ?_ rfl rfl ?_ ?_)
  · exact fun _ _ => declarationParts_phrase_iff
  · exact fun _ hfollow _ _ _ => hfollow
  · simp [declarationParts, Rule.bind, Rule.map, Rule.choice, keywordRule, symbolRule,
      identifierRule, operandRule, Rule.token, Rule.pure]

/-- The rule of an expression that is a statement. -/
def expressionStatementRule : Rule Statement :=
  (operandRule.map Expression.ofOperand).bind fun expression =>
    (symbolRule .semicolon).bind fun _ => .pure (.expression expression)

/-- Reading an expression with its semicolon follows its rule. -/
theorem expressionStatement_follows : Follows expressionStatement expressionStatementRule :=
  .quiet_bind (enter_quiet _) <|
    .bind (fun _ => trivial) expression_follows fun _ =>
    .bind (fun _ => trivial) (symbol_follows _ _) fun _ =>
    .quiet_bind leave_quiet (pure_follows _)

/-- No symbol and no keyword is the first token of an expression. -/
theorem expressionStatement_first {tokens : List Token} {statement : Statement}
    (h : expressionStatementRule.phrase tokens statement) :
    ∃ first rest, tokens = first :: rest ∧ (∀ symbol, first.isSymbol symbol = false) ∧
      ∀ keyword, first.isKeyword keyword = false := by
  obtain ⟨first, rest, hfirst, -, htokens⟩ := Rule.sequence_single.1 (Rule.sequence_changed.1 h)
  have hoperand := operandOf_iff.2 ⟨hfirst, rfl⟩
  exact ⟨first, rest, htokens, hoperand.isSymbol_eq, hoperand.isKeyword_eq⟩

end Parse

end VinylSyntax
