import VinylSyntax.Proofs.Acceptance
import VinylSyntax.Proofs.Alike

/-!
# Parsing undoes printing

What is printed for a well-formed tree is a program of the grammar with this tree, and it is lexed
to the tokens that were printed, but for their places. Each half is an induction on the tree; the
two meet in the parser, which gives the one tree that its tokens have.
-/

namespace VinylSyntax

namespace Grammar

/-! ## The grammar derives what is printed -/

variable {leaf : Token → Prop}

/-- The tokens that an argument is printed with are derived as it. -/
theorem argumentOf_printed {argument : Argument} (hwell : argument.WellFormed leaf) :
    ArgumentOf argument.printed argument :=
  .intro hwell.1.1 hwell.2.1

/-- The tokens that arguments are printed with are derived as a list of them, if there are any. -/
theorem argumentListOf_printed {arguments : List Argument}
    (hwell : ∀ argument ∈ arguments, argument.WellFormed leaf) (hnonempty : arguments ≠ []) :
    ArgumentListOf (Argument.printedIn arguments) arguments := by
  induction arguments with
  | nil => exact absurd rfl hnonempty
  | cons argument arguments ih =>
    have hargument := argumentOf_printed (hwell argument (by simp))
    cases arguments with
    | nil => exact .last hargument
    | cons next arguments =>
      exact .more hargument rfl (ih (fun other hother => hwell other (by simp [hother])) (by simp))

/-- The tokens that arguments are printed with are derived as the arguments of a function. -/
theorem argumentsOf_printed {arguments : List Argument}
    (hwell : ∀ argument ∈ arguments, argument.WellFormed leaf) :
    ArgumentsOf (Argument.printedIn arguments) arguments := by
  cases arguments with
  | nil => exact .none
  | cons argument arguments => exact .some (argumentListOf_printed hwell (by simp))

/-- The token that a return type is printed with is derived as it. -/
theorem returnTypeOf_printed {returnType : Option TypeName}
    (hwell : ∀ type ∈ returnType, type.WellFormed leaf) :
    ReturnTypeOf (returnType.toList.map TypeName.token) returnType := by
  cases returnType with
  | none => exact .none
  | some type => exact .some (hwell type rfl).1

/-- The tokens that a declaration is printed with are derived as it. -/
theorem declarationOf_printed {declared : Declaration} (hwell : declared.WellFormed leaf) :
    DeclarationOf declared.printed declared := by
  obtain ⟨⟨hname, -⟩, ⟨htype, -⟩, hvalue⟩ := hwell
  refine .intro rfl hname htype ?_
  cases hdeclared : declared.value with
  | none => exact .none
  | some value => exact .some rfl (hvalue value hdeclared).1

/-- The tokens of statements, in braces, are derived as a block of them. -/
theorem blockOf_braced {inner : List Token} {statements : List Statement}
    (hinner : StatementsOf inner statements) : BlockOf (bracedTokens inner) statements :=
  .intro rfl hinner rfl

mutual

/-- The tokens that a statement is printed with are derived as it. -/
theorem statementOf_printed (statement : Statement) (hwell : statement.WellFormed leaf) :
    StatementOf statement.printed (some statement) := by
  match statement with
  | .expression operand => exact .expression hwell.1 rfl
  | .declaration declared => exact .declaration (declarationOf_printed hwell)
  | .conditional condition whenTrue whenFalse =>
    obtain ⟨hcondition, hwhenTrue, hwhenFalse⟩ := hwell
    have hfirst := blockOf_braced (statementsOf_printed whenTrue hwhenTrue)
    have hsecond := blockOf_braced (statementsOf_printed whenFalse hwhenFalse)
    refine .conditional (.intro rfl hcondition.1 hfirst ?_)
    -- An empty second branch is not printed, and a missing one is read as empty.
    split
    · next hempty =>
      obtain rfl := List.isEmpty_iff.1 hempty
      exact .none
    · exact .some rfl hsecond

/-- The tokens that statements are printed with are derived as them. -/
theorem statementsOf_printed (statements : List Statement)
    (hwell : Statement.WellFormedIn leaf statements) :
    StatementsOf (Statement.printedIn statements) statements := by
  match statements with
  | [] => exact .nil
  | statement :: statements =>
    exact .cons (statementOf_printed statement hwell.1) (statementsOf_printed statements hwell.2)

end

/-- The tokens that a part of a program is printed with are derived as it. -/
theorem topLevelOf_printed {part : TopLevel} (hwell : part.WellFormed leaf) :
    TopLevelOf part.printed (some part) := by
  cases part with
  | statement content => exact .statement (statementOf_printed content hwell)
  | function definition =>
    obtain ⟨⟨hname, -⟩, harguments, hreturnType, hbody⟩ := hwell
    exact .function (.intro rfl hname rfl (argumentsOf_printed harguments) rfl
      (returnTypeOf_printed hreturnType) (blockOf_braced (statementsOf_printed _ hbody)))

/-- What is printed for a well-formed program is that program. -/
theorem programOf_printedIn {parts : List TopLevel}
    (hwell : ∀ part ∈ parts, part.WellFormed leaf) :
    ProgramOf (TopLevel.printedIn parts) parts := by
  induction parts with
  | nil => exact .nil
  | cons part parts ih =>
    rw [TopLevel.printedIn, List.flatMap_cons]
    exact .cons (topLevelOf_printed (hwell part (by simp)))
      (ih fun other hother => hwell other (by simp [hother]))

/-- Whatever has the kinds and the texts of what is printed for a well-formed program is a program
with the same tree, but for places. -/
theorem programOf_printed {parts : List TopLevel} {tokens : List Token}
    (hwell : ∀ part ∈ parts, part.WellFormed leaf) (h : Alike tokens (TopLevel.printedIn parts)) :
    ∃ others, ProgramOf tokens others ∧
      others.map TopLevel.unplaced = parts.map TopLevel.unplaced :=
  (programOf_printedIn hwell).alike h

end Grammar

open Grammar

/-! ## What is printed is lexed to the same tokens -/

section standalone

variable {preferences : LexicalPreferences}

/-- The token of an identifier that is lexed alone is standalone. -/
theorem Identifier.standalone {identifier : Identifier}
    (hwell : identifier.WellFormed (Token.LexesAlone preferences)) :
    identifier.token.Standalone :=
  Token.standalone_of_lexesAlone hwell.2 (by simp [Token.isComment, hwell.1])

/-- The token of a name of a type that is lexed alone is standalone. -/
theorem TypeName.standalone {typeName : TypeName}
    (hwell : typeName.WellFormed (Token.LexesAlone preferences)) :
    typeName.token.Standalone :=
  Token.standalone_of_lexesAlone hwell.2 (by simp [Token.isComment, hwell.1])

/-- The token of an expression that is lexed alone is standalone. -/
theorem Expression.standalone {expression : Expression}
    (hwell : expression.WellFormed (Token.LexesAlone preferences)) :
    expression.token.Standalone := by
  obtain ⟨hoperand, htoken⟩ := hwell
  refine Token.standalone_of_lexesAlone htoken ?_
  generalize expression.token = token at hoperand
  cases hoperand with
  | identifier hkind => simp [Token.isComment, hkind]
  | integer hkind => simp [Token.isComment, hkind]
  | float hkind => simp [Token.isComment, hkind]

/-- All tokens that arguments are printed with are standalone. -/
theorem Argument.standalone_printedIn {arguments : List Argument}
    (hwell : ∀ argument ∈ arguments, argument.WellFormed (Token.LexesAlone preferences)) :
    ∀ token ∈ Argument.printedIn arguments, token.Standalone := by
  induction arguments with
  | nil => simp [Argument.printedIn]
  | cons argument arguments ih =>
    have hrest := ih fun other hother => hwell other (by simp [hother])
    obtain ⟨hname, htype⟩ := hwell argument (by simp)
    have hargument : ∀ token ∈ argument.printed, token.Standalone := by
      simp only [Argument.printed, List.forall_mem_cons]
      exact ⟨Identifier.standalone hname, TypeName.standalone htype, by simp⟩
    cases arguments with
    | nil => exact hargument
    | cons next arguments =>
      simp only [Argument.printedIn, List.forall_mem_append, List.forall_mem_cons]
      exact ⟨hargument, Token.standalone_ofSymbol _, hrest⟩

/-- All tokens that a declaration is printed with are standalone. -/
theorem Declaration.standalone_printed {declared : Declaration}
    (hwell : declared.WellFormed (Token.LexesAlone preferences)) :
    ∀ token ∈ declared.printed, token.Standalone := by
  obtain ⟨hname, htype, hvalue⟩ := hwell
  simp only [Declaration.printed, List.forall_mem_cons]
  refine ⟨Token.standalone_ofKeyword _, Identifier.standalone hname,
    TypeName.standalone htype, ?_⟩
  cases hdeclared : declared.value with
  | none => simp [Declaration.printedValue]
  | some value =>
    simp only [Declaration.printedValue, List.forall_mem_cons]
    exact ⟨Token.standalone_ofSymbol _, Expression.standalone (hvalue value hdeclared), by simp⟩

/-- Braces around standalone tokens are standalone. -/
theorem standalone_bracedTokens {inner : List Token} (h : ∀ token ∈ inner, token.Standalone) :
    ∀ token ∈ bracedTokens inner, token.Standalone := by
  simp only [bracedTokens, List.forall_mem_cons, List.forall_mem_append]
  exact ⟨Token.standalone_ofSymbol _, h, Token.standalone_ofSymbol _, by simp⟩

mutual

/-- All tokens that a statement is printed with are standalone. -/
theorem Statement.standalone_printed (statement : Statement)
    (hwell : statement.WellFormed (Token.LexesAlone preferences)) :
    ∀ token ∈ statement.printed, token.Standalone := by
  match statement with
  | .expression operand =>
    simp only [Statement.printed, List.forall_mem_cons]
    exact ⟨Expression.standalone hwell, Token.standalone_ofSymbol _, by simp⟩
  | .declaration declared => exact Declaration.standalone_printed hwell
  | .conditional condition whenTrue whenFalse =>
    obtain ⟨hcondition, hwhenTrue, hwhenFalse⟩ := hwell
    have hfirst := standalone_bracedTokens (Statement.standalone_printedIn whenTrue hwhenTrue)
    have hsecond := standalone_bracedTokens (Statement.standalone_printedIn whenFalse hwhenFalse)
    simp only [Statement.printed, List.forall_mem_cons, List.forall_mem_append]
    refine ⟨Token.standalone_ofKeyword _, Expression.standalone hcondition, hfirst, ?_⟩
    split
    · simp
    · rw [List.forall_mem_cons]
      exact ⟨Token.standalone_ofKeyword _, hsecond⟩

/-- All tokens that statements are printed with are standalone. -/
theorem Statement.standalone_printedIn (statements : List Statement)
    (hwell : Statement.WellFormedIn (Token.LexesAlone preferences) statements) :
    ∀ token ∈ Statement.printedIn statements, token.Standalone := by
  match statements with
  | [] => simp [Statement.printedIn]
  | statement :: statements =>
    rw [Statement.printedIn, List.forall_mem_append]
    exact ⟨Statement.standalone_printed statement hwell.1,
      Statement.standalone_printedIn statements hwell.2⟩

end

/-- All tokens that are printed for a well-formed part of a program stand alone. -/
theorem TopLevel.standalone_printed {part : TopLevel}
    (hwell : part.WellFormed (Token.LexesAlone preferences)) :
    ∀ token ∈ part.printed, token.Standalone := by
  cases part with
  | statement content => exact Statement.standalone_printed content hwell
  | function definition =>
    obtain ⟨hname, harguments, hreturnType, hbody⟩ := hwell
    have hblock :=
      standalone_bracedTokens (Statement.standalone_printedIn definition.body hbody)
    simp only [TopLevel.printed, Function.printed, List.forall_mem_cons, List.forall_mem_append]
    refine ⟨Token.standalone_ofKeyword _, Identifier.standalone hname,
      Token.standalone_ofSymbol _, Argument.standalone_printedIn harguments,
      Token.standalone_ofSymbol _, ?_, hblock⟩
    intro token htoken
    obtain ⟨type, htype, rfl⟩ := List.mem_map.1 htoken
    exact TypeName.standalone (hreturnType type (by simpa using htype))

end standalone

/-! ## The round trip -/

/-- A well-formed program that is printed and parsed comes back as it was, but for places. -/
theorem parseSource_render (preferences : Preferences) (parts : List TopLevel)
    (hwell : ∀ part ∈ parts, part.WellFormed (Token.LexesAlone preferences.lexical))
    (hlimits : TopLevel.WithinLimits parts)
    (hcount : (TopLevel.printedIn parts).length ≤ Limits.tokenCount) :
    ∃ others, (parseSource preferences (TopLevel.render parts)).result = .ok others ∧
      others.map TopLevel.unplaced = parts.map TopLevel.unplaced := by
  have hwords : ∀ word ∈ TopLevel.printedIn parts, word.Standalone := by
    intro word hword
    obtain ⟨part, hpart, hword⟩ := List.mem_flatMap.1 hword
    exact TopLevel.standalone_printed (hwell part hpart) word hword
  have hrest : (Lexer.ofString preferences.lexical (TopLevel.render parts)).cursor.rest =
      [] ++ [' '].intercalate ((TopLevel.printedIn parts).map fun word => word.text.toList) := by
    show (TopLevel.render parts).toList = _
    rw [TopLevel.render, String.toList_intercalate, List.map_map]
    rfl
  have hcount' : (Lexer.ofString preferences.lexical (TopLevel.render parts)).metrics.tokens +
      (TopLevel.printedIn parts).length ≤ Limits.tokenCount := by
    show 0 + (TopLevel.printedIn parts).length ≤ Limits.tokenCount
    omega
  obtain ⟨tokens, location, hahead, halike⟩ :=
    Lexer.ahead_of_words rfl (by simp) hrest hwords hcount'
  obtain ⟨others, hprogram, hunplaced⟩ := programOf_printed hwell halike
  have hlimits' : TopLevel.WithinLimits others := by
    rw [← TopLevel.withinLimits_unplaced, hunplaced, TopLevel.withinLimits_unplaced]
    exact hlimits
  exact ⟨others, parseSource_of_limited hahead hprogram hlimits', hunplaced⟩

/-- A conditional without a second branch. -/
def sampleConditional : List TopLevel :=
  let name : Expression := .identifier ⟨⟨.identifier, "x", default⟩⟩
  [.statement (.conditional name [.expression name] [])]

/-- The second branch, which is empty, is not printed, and comes back empty. -/
theorem parseSource_render_sample :
    TopLevel.render sampleConditional = "if x \x7b x ; \x7d" ∧
      ∃ others, (parseSource default "if x \x7b x ; \x7d").result = .ok others ∧
        others.map TopLevel.unplaced = sampleConditional.map TopLevel.unplaced := by
  have hlexes : Token.LexesAlone default ⟨.identifier, "x", default⟩ :=
    ⟨⟨⟨1, 1⟩, ⟨1, 2⟩⟩, by with_unfolding_all rfl⟩
  have hname : Expression.WellFormed (Token.LexesAlone default)
      (.identifier ⟨⟨.identifier, "x", default⟩⟩) :=
    ⟨.identifier rfl, hlexes⟩
  have hwell : ∀ part ∈ sampleConditional, part.WellFormed (Token.LexesAlone default) := by
    intro part hpart
    obtain rfl := List.mem_singleton.1 hpart
    exact ⟨hname, ⟨hname, trivial⟩, trivial⟩
  have hlimits : TopLevel.WithinLimits sampleConditional := by
    constructor <;> decide
  have hrender : TopLevel.render sampleConditional = "if x \x7b x ; \x7d" := by
    decide +kernel
  rw [← hrender]
  exact ⟨rfl, parseSource_render default sampleConditional hwell hlimits (by decide)⟩

end VinylSyntax
