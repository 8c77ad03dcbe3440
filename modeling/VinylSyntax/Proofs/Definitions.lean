import VinylSyntax.Proofs.Descent

/-!
# Functions and programs

The rules of arguments, functions and programs, and that the parser follows them. Besides an `if`
that is nested too deep, a function with too many arguments breaks their limits: see `Overfull`.
-/

namespace VinylSyntax

open Grammar

namespace TopLevel

/-- A program without parts is within the limits. -/
theorem withinLimits_nil : WithinLimits [] := by
  simp [WithinLimits, depthsIn]

/-- Parts behind one another are within the limits if and only if both are. -/
theorem withinLimits_append {front back : List TopLevel} :
    WithinLimits (front ++ back) ↔ WithinLimits front ∧ WithinLimits back := by
  simp only [WithinLimits, depthsIn, List.flatMap_append, List.forall_mem_append]
  exact and_and_and_comm

/-- A function is within the limits if it has no more arguments than are allowed, and its body is
not too deep. -/
theorem withinLimits_function {definition : Function} :
    WithinLimits [.function definition] ↔
      definition.arguments.length ≤ Limits.argumentCount ∧ Statement.Shallow 0 definition.body := by
  have hdepths : depthsIn [.function definition] = Statement.depthsIn 0 definition.body := by
    simp [depthsIn, depths]
  rw [WithinLimits, hdepths, List.forall_mem_singleton]
  exact and_comm

/-- A statement is within the limits if it is not too deep. -/
theorem withinLimits_statement {content : Option Statement} :
    WithinLimits (content.map TopLevel.statement).toList ↔ Statement.Shallow 0 content.toList := by
  cases content with
  | none => simp [withinLimits_nil, Statement.shallow_nil]
  | some content =>
    have hdepths : depthsIn [.statement content] = Statement.depthsIn 0 [content] := by
      simp [depthsIn, depths, Statement.depthsIn]
    show WithinLimits [.statement content] ↔ Statement.Shallow 0 [content]
    rw [WithinLimits, hdepths]
    exact and_iff_left (by simp [arity])

end TopLevel

namespace Parse

/-! ## Arguments -/

/-- The rule of one or more arguments, `allowed` at most. -/
def argumentListRule (function : Identifier) (allowed : Nat) : Rule (List Argument) where
  phrase := ArgumentListOf
  limited tokens arguments := ArgumentListOf tokens arguments ∧ arguments.length ≤ allowed
  follow := NotNext (Token.isSymbol .comma)
  excess tokens error := ∃ arguments, ArgumentListOf tokens arguments ∧
    arguments.length = allowed + 1 ∧
    error = .tooManyArguments function.name (Limits.argumentCount + 1) Limits.argumentCount
      function.span.start
  phrase_of_limited h := h.1
  productive := ⟨[.ofKind .identifier, .ofKind .identifier], _, .last (.intro rfl rfl)⟩

/-- A list of arguments has at least one. -/
theorem argumentListOf_nonempty {tokens : List Token} {arguments : List Argument}
    (h : ArgumentListOf tokens arguments) : 0 < arguments.length := by
  cases h <;> simp

/-- Tokens are an argument, and perhaps a comma and further ones, whatever those are. -/
def ArgumentListWith (phrase : List Token → List Argument → Prop) (tokens : List Token)
    (arguments : List Argument) : Prop :=
  ∃ argument front back, ArgumentOf front argument ∧ tokens = front ++ back ∧
    ((∃ comma rest others, comma.kind = .symbol .comma ∧ phrase rest others ∧
      back = comma :: rest ∧ arguments = argument :: others) ∨ back = [] ∧ arguments = [argument])

/-- A list of arguments is an argument, and perhaps a comma and a further list. -/
theorem argumentListOf_iff {tokens : List Token} {arguments : List Argument} :
    ArgumentListOf tokens arguments ↔ ArgumentListWith ArgumentListOf tokens arguments := by
  constructor
  · intro h
    cases h with
    | last hargument => exact ⟨_, _, [], hargument, by simp, .inr ⟨rfl, rfl⟩⟩
    | more hargument hcomma hrest =>
      exact ⟨_, _, _, hargument, rfl, .inl ⟨_, _, _, hcomma, hrest, rfl, rfl⟩⟩
  · intro h
    obtain ⟨argument, front, _, hargument, rfl, hback⟩ := h
    rcases hback with ⟨comma, rest, others, hcomma, hrest, rfl, rfl⟩ | ⟨rfl, rfl⟩
    · exact .more hargument hcomma hrest
    · simpa using ArgumentListOf.last hargument

/-- A list is within a limit if what follows its first argument is within one less. -/
theorem argumentList_limited_iff {function : Identifier} {allowed : Nat} {tokens : List Token}
    {arguments : List Argument} :
    (argumentListRule function (allowed + 1)).limited tokens arguments ↔
      ArgumentListWith (argumentListRule function allowed).limited tokens arguments := by
  constructor
  · intro ⟨h, hlength⟩
    obtain ⟨argument, front, back, hargument, htokens, hmore⟩ := argumentListOf_iff.1 h
    rcases hmore with ⟨comma, rest, others, hcomma, hrest, hback, rfl⟩ | hlast
    · have hallowed : others.length ≤ allowed := by simpa using hlength
      exact ⟨argument, front, back, hargument, htokens,
        .inl ⟨comma, rest, others, hcomma, ⟨hrest, hallowed⟩, hback, rfl⟩⟩
    · exact ⟨argument, front, back, hargument, htokens, .inr hlast⟩
  · intro h
    obtain ⟨argument, front, back, hargument, htokens, hmore⟩ := h
    rcases hmore with ⟨comma, rest, others, hcomma, ⟨hrest, hallowed⟩, hback, rfl⟩ | ⟨hback, rfl⟩
    · have hlist := argumentListOf_iff.2 ⟨argument, front, back, hargument, htokens,
        .inl ⟨comma, rest, others, hcomma, hrest, hback, rfl⟩⟩
      exact ⟨hlist, by simpa using hallowed⟩
    · have hlist := argumentListOf_iff.2 ⟨argument, front, back, hargument, htokens,
        .inr ⟨hback, rfl⟩⟩
      exact ⟨hlist, by simp⟩

/-- The rule of an argument and those behind it, made of the rules of its parts; `found` came
before, latest first. -/
def argumentListParts (function : Identifier) (found : List Argument) (allowed : Nat) :
    Rule (List Argument) :=
  argumentRule.bind fun argument =>
    ((symbolRule .comma).bind fun _ =>
      (argumentListRule function allowed).map ((argument :: found).reverse ++ ·)).choice
    (.pure (argument :: found).reverse) (NotNext (Token.isSymbol .comma))

/-- The rules of an argument and of what may follow it, one behind the other, read a list. -/
theorem sequence_argumentList {phrase : List Token → List Argument → Prop}
    {found : List Argument} {tokens : List Token} {arguments : List Argument} :
    Rule.Sequence ArgumentOf (fun argument tokens arguments =>
      Rule.Sequence (Rule.Single (Token.isSymbol .comma)) (fun _ =>
        Rule.Changed ((argument :: found).reverse ++ ·) phrase) tokens arguments ∨
      Rule.Nothing (argument :: found).reverse tokens arguments) tokens arguments ↔
    Rule.Changed (found.reverse ++ ·) (ArgumentListWith phrase) tokens arguments := by
  constructor
  · intro ⟨argument, front, back, hargument, hback, htokens⟩
    rcases hback with hmore | ⟨rfl, rfl⟩
    · obtain ⟨comma, rest, hcomma, ⟨others, hothers, rfl⟩, rfl⟩ := Rule.sequence_single.1 hmore
      refine ⟨argument :: others, ⟨argument, front, _, hargument, htokens, .inl ?_⟩, by simp⟩
      exact ⟨comma, rest, others, Token.isSymbol_iff.1 hcomma, hothers, rfl, rfl⟩
    · exact ⟨[argument], ⟨argument, front, [], hargument, htokens, .inr ⟨rfl, rfl⟩⟩, by simp⟩
  · intro ⟨_, h, harguments⟩
    subst harguments
    obtain ⟨argument, front, back, hargument, htokens, hback⟩ := h
    rcases hback with ⟨comma, rest, others, hcomma, hothers, rfl, rfl⟩ | ⟨rfl, rfl⟩
    · refine ⟨argument, front, _, hargument, .inl (Rule.sequence_single.2 ?_), htokens⟩
      exact ⟨comma, rest, Token.isSymbol_iff.2 hcomma, ⟨others, hothers, by simp⟩, rfl⟩
    · exact ⟨argument, front, [], hargument, .inr ⟨rfl, by simp⟩, htokens⟩

/-- What breaks the limit within the parts of a list breaks it for the list. -/
theorem argumentListParts_excess {function : Identifier} {found : List Argument} {allowed : Nat}
    {tokens : List Token} {error : SyntaxError}
    (h : (argumentListParts function found allowed).excess tokens error) :
    (argumentListRule function (allowed + 1)).excess tokens error := by
  rcases h with ⟨⟨⟩⟩ | ⟨argument, front, _, hargument, hback, rfl⟩
  rcases hback with (⟨⟨⟩⟩ | ⟨comma, _, rest, ⟨rfl, hcomma⟩, hrest, rfl⟩) | ⟨⟨⟩⟩
  obtain ⟨others, hothers, hlength, herror⟩ := hrest
  have hlist := ArgumentListOf.more hargument (Token.isSymbol_iff.1 hcomma) hothers
  exact ⟨argument :: others, hlist, by simpa using hlength, herror⟩

/-- An argument behind as many as are allowed breaks the limit. -/
theorem argumentsFrom_overrun (function : Identifier) (found : List Argument) :
    Follows (argumentsFrom function found 0)
      ((argumentListRule function 0).map (found.reverse ++ ·)) := by
  refine .overrun (fun _ => trivial) argument_follows (fun _ _ h => h) ?_ ?_ ?_ ?_
  · intro tokens arguments ⟨_, h, _⟩
    obtain ⟨argument, front, back, hargument, htokens, -⟩ := argumentListOf_iff.1 h
    exact ⟨front, argument, back, hargument, htokens⟩
  · intro front argument hargument
    have hlist := ArgumentListOf.last hargument
    obtain ⟨hname, htype⟩ := hargument
    exact ⟨by simp, [], _, _, hlist, rfl⟩
  · intro front argument hargument
    exact ⟨[argument], .last hargument, rfl, rfl⟩
  · intro tokens arguments ⟨_, ⟨h, hlength⟩, _⟩
    exact absurd (argumentListOf_nonempty h) (Nat.not_lt.2 hlength)

/-- Reading arguments follows the rule of a list, behind those that were found before. -/
theorem argumentsFrom_follows (function : Identifier) (found : List Argument) (allowed : Nat) :
    Follows (argumentsFrom function found allowed)
      ((argumentListRule function allowed).map (found.reverse ++ ·)) := by
  -- An argument that was read goes from those allowed to those found.
  induction allowed generalizing found with
  | zero => exact argumentsFrom_overrun function found
  | succ allowed ih =>
    have hparts : Follows (argumentsFrom function found (allowed + 1))
        (argumentListParts function found allowed) := by
      refine .bind (fun _ => trivial) argument_follows fun argument =>
        .choice_advance _ (fun _ => ih (argument :: found)) (pure_follows _)
          (fun _ hfollow => ⟨fun _ => hfollow, trivial⟩) ?_
      intro tokens value rest hphrase hrest
      obtain ⟨rfl, -⟩ := hphrase
      exact hrest
    intro parser
    refine (hparts parser).widen (Rule.narrows_of_iff _ ?_ ?_ ?_ ?_)
    · intro tokens arguments
      refine sequence_argumentList.trans (exists_congr fun others => and_congr ?_ Iff.rfl)
      exact argumentListOf_iff.symm
    · intro tokens arguments
      refine sequence_argumentList.trans (exists_congr fun others => and_congr ?_ Iff.rfl)
      exact argumentList_limited_iff.symm
    · exact fun _ hfollow _ => hfollow
    · exact fun _ _ => argumentListParts_excess

/-- The rule of the arguments of a function, of which there may be none. They end at the closing
parenthesis. -/
def argumentsRule (function : Identifier) : Rule (List Argument) where
  phrase := ArgumentsOf
  limited tokens arguments :=
    ArgumentsOf tokens arguments ∧ arguments.length ≤ Limits.argumentCount
  follow next := next.any (Token.isSymbol .parenClose) = true
  excess := (argumentListRule function Limits.argumentCount).excess
  phrase_of_limited h := h.1
  productive := ⟨[], [], .none⟩

/-- The rule of the arguments of a function, made of the rules of its parts. -/
def argumentsParts (function : Identifier) : Rule (List Argument) :=
  (Rule.pure []).choice
    ((argumentListRule function Limits.argumentCount).map ([].reverse ++ ·))
    (argumentsRule function).follow

/-- Reading the arguments of a function follows the rules of their parts. -/
theorem argumentsParts_follows (function : Identifier) :
    Follows (arguments function) (argumentsParts function) := by
  refine .choice (pure_follows _) (argumentsFrom_follows function [] _) ?_ ?_ ?_
  · intro next hnext
    obtain ⟨token, rfl, htoken⟩ := (Option.any_eq_true _ _).1 hnext
    have hkind := Token.isSymbol_iff.1 htoken
    exact ⟨trivial, by simp [Rule.map, argumentListRule, NotNext, Token.isSymbol, hkind]⟩
  · intro tokens arguments rest hphrase hrest
    obtain ⟨rfl, -⟩ := hphrase
    exact hrest
  · intro tokens arguments rest hphrase _
    obtain ⟨_, hlist, -⟩ := hphrase
    obtain ⟨_, _, _, ⟨hname, -⟩, rfl, -⟩ := argumentListOf_iff.1 hlist
    simp [Token.isSymbol, hname]

/-- The arguments of a function are none, or a list. -/
theorem argumentsOf_iff {tokens : List Token} {arguments : List Argument} :
    ArgumentsOf tokens arguments ↔
      tokens = [] ∧ arguments = [] ∨ ArgumentListOf tokens arguments := by
  constructor
  · intro h
    cases h with
    | none => exact .inl ⟨rfl, rfl⟩
    | some hlist => exact .inr hlist
  · intro h
    rcases h with ⟨rfl, rfl⟩ | hlist
    · exact .none
    · exact .some hlist

/-- The arguments of a function are within the limit if there are none, or the list is within it. -/
theorem arguments_limited_iff {function : Identifier} {tokens : List Token}
    {arguments : List Argument} :
    (argumentsRule function).limited tokens arguments ↔ tokens = [] ∧ arguments = [] ∨
      (argumentListRule function Limits.argumentCount).limited tokens arguments := by
  show ArgumentsOf tokens arguments ∧ arguments.length ≤ Limits.argumentCount ↔
    tokens = [] ∧ arguments = [] ∨
      ArgumentListOf tokens arguments ∧ arguments.length ≤ Limits.argumentCount
  rw [argumentsOf_iff, or_and_right]
  refine or_congr (and_iff_left_of_imp ?_) Iff.rfl
  intro h
  rw [h.2]
  exact Nat.zero_le _

/-- Reading the arguments of a function follows their rule. -/
theorem arguments_follows (function : Identifier) :
    Follows (arguments function) (argumentsRule function) := by
  have hchoice : ∀ (list : List Token → List Argument → Prop) (tokens : List Token)
      (arguments : List Argument),
      Rule.Nothing [] tokens arguments ∨ Rule.Changed ([].reverse ++ ·) list tokens arguments ↔
        tokens = [] ∧ arguments = [] ∨ list tokens arguments := by
    intro list tokens arguments
    simp [Rule.Nothing, Rule.Changed]
  intro parser
  refine (argumentsParts_follows function parser).widen (Rule.narrows_of_iff _ ?_ ?_ ?_ ?_)
  · exact fun _ _ => (hchoice _ _ _).trans argumentsOf_iff.symm
  · exact fun _ _ => (hchoice _ _ _).trans arguments_limited_iff.symm
  · exact fun _ hfollow => hfollow
  · intro tokens error hexcess
    rcases hexcess with ⟨⟨⟩⟩ | hexcess
    exact hexcess

/-! ## Functions -/

/-- The rule of the type that a function returns, behind which the body begins. -/
def returnTypeRule : Rule (Option TypeName) where
  phrase := ReturnTypeOf
  limited := ReturnTypeOf
  follow next := next.any (Token.isSymbol .braceOpen) = true
  excess _ _ := False
  phrase_of_limited h := h
  productive := ⟨[], none, .none⟩

/-- Reading the type that a function returns follows its rule. -/
theorem returnType_follows : Follows returnType returnTypeRule := by
  have h : Follows returnType ((Rule.pure none).choice
      ((identifierRule.map TypeName.mk).map some) returnTypeRule.follow) := by
    refine .choice (pure_follows _) (fun parser => (typeName_follows _ parser).map some)
      (fun _ _ => ⟨trivial, trivial⟩) ?_ ?_
    · intro tokens value rest hphrase hrest
      obtain ⟨rfl, -⟩ := hphrase
      exact hrest
    · intro tokens value rest hphrase _
      obtain ⟨_, ⟨type, ⟨rfl, htype⟩, -⟩, -⟩ := hphrase
      simp [Token.isSymbol, Token.isIdentifier_iff.1 htype]
  refine fun parser => (h parser).widen (Rule.narrows_of_free _ ?_ rfl rfl (fun _ h => h) ?_)
  · intro tokens value
    constructor
    · intro h
      rcases h with ⟨rfl, rfl⟩ | ⟨_, ⟨type, ⟨rfl, htype⟩, rfl⟩, rfl⟩
      · exact ReturnTypeOf.none
      · exact ReturnTypeOf.some (Token.isIdentifier_iff.1 htype)
    · intro h
      cases h with
      | none => exact .inl ⟨rfl, rfl⟩
      | some htype => exact .inr ⟨_, ⟨_, ⟨rfl, Token.isIdentifier_iff.2 htype⟩, rfl⟩, rfl⟩
  · simp [Rule.choice, Rule.map, Rule.pure, identifierRule, Rule.token]

/-- Tokens are the beginning of a function up to the first argument that is too much, and the error
says so. -/
def Overfull (tokens : List Token) (error : SyntaxError) : Prop :=
  ∃ word name opening list arguments, tokens = word :: name :: opening :: list ∧
    word.kind = .keyword .defWord ∧ name.kind = .identifier ∧ opening.kind = .symbol .parenOpen ∧
    ArgumentListOf list arguments ∧ arguments.length = Limits.argumentCount + 1 ∧
    error = .tooManyArguments name.text (Limits.argumentCount + 1) Limits.argumentCount
      name.span.start

/-- Tokens break a limit, outside of any block. -/
def Excessive (tokens : List Token) (error : SyntaxError) : Prop :=
  Overnested (nesting [] false) tokens error ∨ Overfull tokens error

/-- The rule of a function. -/
def functionRule : Rule Function where
  phrase := FunctionOf
  limited tokens definition := FunctionOf tokens definition ∧
    definition.arguments.length ≤ Limits.argumentCount ∧ Statement.Shallow 0 definition.body
  follow _ := True
  excess := Excessive
  phrase_of_limited h := h.1
  productive :=
    ⟨[.ofKind (.keyword .defWord), .ofKind .identifier, .ofKind (.symbol .parenOpen),
      .ofKind (.symbol .parenClose), .ofKind (.symbol .braceOpen),
      .ofKind (.symbol .braceClose)], _, .intro rfl rfl rfl .none rfl .none blockOf_empty⟩

/-- Tokens are a function, whatever its arguments and its body are. -/
def FunctionWith (list : Identifier → List Token → List Argument → Prop)
    (block : List Token → List Statement → Prop) (tokens : List Token) (definition : Function) :
    Prop :=
  ∃ word name opening middle closing type rest, word.kind = .keyword .defWord ∧
    name.kind = .identifier ∧ opening.kind = .symbol .parenOpen ∧
    list ⟨name⟩ middle definition.arguments ∧ closing.kind = .symbol .parenClose ∧
    ReturnTypeOf type definition.returnType ∧ block rest definition.body ∧
    definition.identifier = ⟨name⟩ ∧
    tokens = word :: name :: opening :: (middle ++ closing :: (type ++ rest))

/-- A function is what its arguments and its body make of it. -/
theorem functionOf_iff {tokens : List Token} {definition : Function} :
    FunctionOf tokens definition ↔
      FunctionWith (fun _ => ArgumentsOf) BlockOf tokens definition := by
  constructor
  · intro h
    obtain ⟨hword, hname, hopening, harguments, hclosing, htype, hblock⟩ := h
    exact ⟨_, _, _, _, _, _, _, hword, hname, hopening, harguments, hclosing, htype, hblock, rfl,
      rfl⟩
  · intro ⟨word, name, opening, middle, closing, type, rest, hword, hname, hopening, harguments,
      hclosing, htype, hblock, hidentifier, htokens⟩
    obtain ⟨identifier, arguments, returnType, body⟩ := definition
    obtain rfl : identifier = ⟨name⟩ := hidentifier
    subst htokens
    exact .intro hword hname hopening harguments hclosing htype hblock

/-- A function is within the limits if and only if its arguments and its body are. -/
theorem function_limited_iff {tokens : List Token} {definition : Function} :
    functionRule.limited tokens definition ↔
      FunctionWith (fun identifier => (argumentsRule identifier).limited) (blockRule 0).limited
        tokens definition := by
  constructor
  · intro ⟨h, hlength, hshallow⟩
    obtain ⟨word, name, opening, middle, closing, type, rest, hword, hname, hopening, harguments,
      hclosing, htype, hblock, hidentifier, htokens⟩ := functionOf_iff.1 h
    exact ⟨word, name, opening, middle, closing, type, rest, hword, hname, hopening,
      ⟨harguments, hlength⟩, hclosing, htype, ⟨hblock, hshallow⟩, hidentifier, htokens⟩
  · intro ⟨word, name, opening, middle, closing, type, rest, hword, hname, hopening,
      ⟨harguments, hlength⟩, hclosing, htype, ⟨hblock, hshallow⟩, hidentifier, htokens⟩
    have hfunction := functionOf_iff.2 ⟨word, name, opening, middle, closing, type, rest, hword,
      hname, hopening, harguments, hclosing, htype, hblock, hidentifier, htokens⟩
    exact ⟨hfunction, hlength, hshallow⟩

/-- The rules of the parts of a function, one behind the other, read a function. -/
theorem sequence_function {list : Identifier → List Token → List Argument → Prop}
    {block : List Token → List Statement → Prop} {tokens : List Token} {definition : Function} :
    Rule.Sequence (Rule.Single (Token.isKeyword .defWord)) (fun _ =>
      Rule.Sequence (Rule.Changed Identifier.mk (Rule.Single Token.isIdentifier)) fun identifier =>
      Rule.Sequence (Rule.Single (Token.isSymbol .parenOpen)) fun _ =>
      Rule.Sequence (list identifier) fun arguments =>
      Rule.Sequence (Rule.Single (Token.isSymbol .parenClose)) fun _ =>
      Rule.Sequence ReturnTypeOf fun returnType =>
      Rule.Sequence block fun body =>
        Rule.Nothing ⟨identifier, arguments, returnType, body⟩) tokens definition ↔
    FunctionWith list block tokens definition := by
  simp only [Rule.sequence_single, Rule.sequence_changed, Token.isKeyword_iff,
    Token.isIdentifier_iff, Token.isSymbol_iff]
  constructor
  · intro ⟨word, _, hword, ⟨name, _, hname, ⟨opening, _, hopening, h, hthird⟩, hsecond⟩, htokens⟩
    subst htokens hsecond hthird
    obtain ⟨arguments, middle, _, harguments, hback, rfl⟩ := h
    obtain ⟨closing, _, hclosing, hrest, rfl⟩ := Rule.sequence_single.1 hback
    obtain ⟨returnType, type, _, htype, ⟨body, rest, _, hbody, ⟨rfl, rfl⟩, rfl⟩, rfl⟩ := hrest
    exact ⟨word, name, opening, middle, closing, type, rest, hword, hname, hopening, harguments,
      Token.isSymbol_iff.1 hclosing, htype, hbody, rfl, by simp⟩
  · intro ⟨word, name, opening, middle, closing, type, rest, hword, hname, hopening, harguments,
      hclosing, htype, hbody, hidentifier, htokens⟩
    subst htokens
    refine ⟨word, _, hword, ⟨name, _, hname, ⟨opening, _, hopening, ?_, rfl⟩, rfl⟩, rfl⟩
    refine ⟨_, middle, _, harguments, Rule.sequence_single.2 ?_, rfl⟩
    refine ⟨closing, _, Token.isSymbol_iff.2 hclosing, ?_, rfl⟩
    exact ⟨_, type, rest, htype, ⟨_, rest, [], hbody, ⟨rfl, by rw [← hidentifier]⟩, by simp⟩, rfl⟩

/-- The rule of what stands behind the arguments of a function, made of the rules of its parts. -/
def functionTail (identifier : Identifier) (arguments : List Argument) : Rule Function :=
  (symbolRule .parenClose).bind fun _ => returnTypeRule.bind fun returnType =>
  (blockRule 0).bind fun body => .pure ⟨identifier, arguments, returnType, body⟩

/-- The rule of a function, made of the rules of its parts. -/
def functionParts : Rule Function :=
  (keywordRule .defWord).bind fun _ => (identifierRule.map Identifier.mk).bind fun identifier =>
  (symbolRule .parenOpen).bind fun _ =>
  (argumentsRule identifier).bind fun arguments => functionTail identifier arguments

/-- Reading what stands behind the arguments of a function follows the rule of that. -/
theorem functionTail_follows (identifier : Identifier) (arguments : List Argument) :
    Follows (do let _ ← expect (Token.isSymbol .parenClose) .argumentsClose
                let returnType ← returnType
                let body ← block (statement Limits.nestingDepth) (.functionBody identifier.name)
                leave
                return { identifier, arguments, returnType, body })
      (functionTail identifier arguments) := by
  refine .bind (fun _ => trivial) (symbol_follows _ _) fun _ parser =>
    .bind ?_ (returnType_follows parser) fun returnType behind _ => ?_
  · -- The body begins with a brace, which is what may stand behind the type.
    intro returnType _ value rest hback _
    obtain ⟨body, _, _, ⟨hopening, -, -⟩, -, rfl⟩ := hback
    exact Token.isSymbol_iff.2 hopening
  · have hstatement : Follows (statement Limits.nestingDepth) (statementRule 0) :=
      statement_follows (Nat.zero_add _)
    have hbody : Follows
        (do let body ← block (statement Limits.nestingDepth) (.functionBody identifier.name)
            leave
            return { identifier, arguments, returnType, body } : Parse Function)
        ((blockRule 0).bind fun body => .pure ⟨identifier, arguments, returnType, body⟩) :=
      .bind (fun _ => trivial) (block_follows hstatement _) fun body =>
        .quiet_bind leave_quiet (pure_follows _)
    exact hbody behind

/-- Reading a function follows the rules of its parts. -/
theorem functionParts_follows : Follows function functionParts := by
  refine .quiet_bind (enter_quiet _) <|
    .bind (fun _ => trivial) (keyword_follows _ _) fun _ =>
    .bind (fun _ => trivial) (identifier_follows _) fun identifier =>
    .bind (fun _ => trivial) (symbol_follows _ _) fun _ parser =>
    .bind ?_ (arguments_follows identifier parser) fun arguments behind _ =>
      functionTail_follows identifier arguments behind
  intro arguments _ value rest hback _
  obtain ⟨closing, _, hclosing, -, rfl⟩ := Rule.sequence_single.1 hback
  exact hclosing

/-- What breaks a limit within the parts of a function breaks it for the function. -/
theorem functionParts_excess {tokens : List Token} {error : SyntaxError}
    (h : functionParts.excess tokens error) : Excessive tokens error := by
  rcases h with ⟨⟨⟩⟩ | ⟨word, _, _, ⟨rfl, hword⟩, h, rfl⟩
  rcases h with ⟨⟨⟩⟩ | ⟨_, _, _, ⟨name, ⟨rfl, hname⟩, rfl⟩, h, rfl⟩
  rcases h with ⟨⟨⟩⟩ | ⟨opening, _, _, ⟨rfl, hopening⟩, h, rfl⟩
  rw [Token.isKeyword_iff] at hword
  rw [Token.isIdentifier_iff] at hname
  rw [Token.isSymbol_iff] at hopening
  rcases h with hlist | ⟨arguments, middle, _, ⟨harguments, -⟩, h, rfl⟩
  -- Either there are too many arguments, or a conditional in the body is nested too deep.
  · obtain ⟨arguments, hlist, hlength, rfl⟩ := hlist
    exact .inr ⟨word, name, opening, _, arguments, rfl, hword, hname, hopening, hlist, hlength,
      rfl⟩
  · rcases h with ⟨⟨⟩⟩ | ⟨closing, _, _, ⟨rfl, hclosing⟩, h, rfl⟩
    rcases h with ⟨⟨⟩⟩ | ⟨returnType, type, _, htype, h, rfl⟩
    rcases h with hblock | ⟨_, _, _, -, ⟨⟩, -⟩
    rw [Token.isSymbol_iff] at hclosing
    have hplain := header_plain hword hname hopening harguments hclosing htype
    have hover := (hblock [] false rfl).behind_plain hplain
    exact .inl (by simpa using hover)

/-- Reading a function follows its rule. -/
theorem function_follows : Follows function functionRule := by
  intro parser
  refine (functionParts_follows parser).widen (Rule.narrows_of_iff _ ?_ ?_ ?_ ?_)
  · exact fun _ _ => sequence_function.trans functionOf_iff.symm
  · exact fun _ _ => sequence_function.trans function_limited_iff.symm
  · exact fun _ _ _ _ _ _ _ _ _ => trivial
  · exact fun _ _ => functionParts_excess

/-! ## Programs -/

/-- The rule of a part of a program. -/
def topLevelRule : Rule (Option TopLevel) where
  phrase := TopLevelOf
  limited tokens part := TopLevelOf tokens part ∧ TopLevel.WithinLimits part.toList
  follow := (statementRule 0).follow
  excess := Excessive
  phrase_of_limited h := h.1
  productive := ⟨[.ofKind (.symbol .semicolon)], _, .statement (.empty rfl)⟩

/-- Reading a part of a program follows its rule. -/
theorem topLevel_follows : Follows topLevel topLevelRule := by
  have hstatement : Follows (statement Limits.nestingDepth) (statementRule 0) :=
    statement_follows (Nat.zero_add _)
  have h : Follows topLevel
      ((functionRule.map fun definition => some (TopLevel.function definition)).choice
        ((statementRule 0).map (Option.map TopLevel.statement)) (statementRule 0).follow) := by
    refine .choice (fun parser => (function_follows parser).map _)
      (fun parser => (hstatement parser).map _) (fun _ h => ⟨trivial, h⟩) ?_ ?_
    · intro tokens value rest hphrase _
      obtain ⟨_, ⟨hword, -⟩, -⟩ := hphrase
      exact Token.isKeyword_iff.2 hword
    · intro tokens value rest hphrase _
      obtain ⟨_, hphrase, -⟩ := hphrase
      obtain ⟨first, _, rfl, -, -, -, hdef⟩ := statementOf_first hphrase
      exact hdef
  refine fun parser => (h parser).widen (Rule.narrows_of_iff _ ?_ ?_ (fun _ h => h) ?_)
  · intro tokens part
    constructor
    · intro h
      rcases h with ⟨definition, hfunction, rfl⟩ | ⟨content, hcontent, rfl⟩
      · exact TopLevelOf.function hfunction
      · exact TopLevelOf.statement hcontent
    · intro h
      cases h with
      | function hfunction => exact .inl ⟨_, hfunction, rfl⟩
      | statement hcontent => exact .inr ⟨_, hcontent, rfl⟩
  · intro tokens part
    constructor
    · intro h
      rcases h with ⟨definition, ⟨hfunction, hlimits⟩, rfl⟩ | ⟨content, ⟨hcontent, hshallow⟩, rfl⟩
      · exact ⟨TopLevelOf.function hfunction, TopLevel.withinLimits_function.2 hlimits⟩
      · exact ⟨TopLevelOf.statement hcontent, TopLevel.withinLimits_statement.2 hshallow⟩
    · intro ⟨h, hlimits⟩
      cases h with
      | function hfunction =>
        exact .inl ⟨_, ⟨hfunction, TopLevel.withinLimits_function.1 hlimits⟩, rfl⟩
      | statement hcontent =>
        exact .inr ⟨_, ⟨hcontent, TopLevel.withinLimits_statement.1 hlimits⟩, rfl⟩
  · intro tokens error hexcess
    rcases hexcess with hexcess | hexcess
    · exact hexcess
    · exact .inl (hexcess [] rfl)

/-- A part of a program begins with a token that may follow any part. -/
theorem topLevelOf_first {tokens : List Token} {part : Option TopLevel}
    (h : TopLevelOf tokens part) :
    ∃ first rest, tokens = first :: rest ∧ topLevelRule.follow (some first) := by
  cases h with
  | function hfunction =>
    obtain ⟨hword, -⟩ := hfunction
    exact ⟨_, _, rfl, by simp [topLevelRule, statementRule, NotNext, Token.isSymbol,
      Token.isKeyword, hword]⟩
  | statement hstatement =>
    obtain ⟨first, rest, rfl, -, hequal, helse, -⟩ := statementOf_first hstatement
    exact ⟨first, rest, rfl, hequal, helse⟩

/-- The rule of a program, behind which nothing may stand. -/
def programRule : Rule (List TopLevel) where
  phrase := ProgramOf
  limited tokens parts := ProgramOf tokens parts ∧ TopLevel.WithinLimits parts
  follow next := next.isNone = true
  excess tokens error := ∃ before parts back, tokens = before ++ back ∧ ProgramOf before parts ∧
    TopLevel.WithinLimits parts ∧ Excessive back error
  phrase_of_limited h := h.1
  productive := ⟨[], [], .nil⟩

/-- Parts one behind the other are a program. -/
theorem many_topLevelOf_iff {tokens : List Token} {parts : List TopLevel} :
    Rule.Many TopLevelOf tokens parts ↔ ProgramOf tokens parts := by
  constructor
  · intro h
    induction h with
    | nil => exact .nil
    | cons hphrase _ ih => exact .cons hphrase ih
  · intro h
    induction h with
    | nil => exact .nil
    | cons hpart _ ih => exact .cons hpart ih

/-- Parts within the limits, one behind the other, are a program within the limits. -/
theorem many_withinLimits_iff {tokens : List Token} {parts : List TopLevel} :
    Rule.Many topLevelRule.limited tokens parts ↔
      ProgramOf tokens parts ∧ TopLevel.WithinLimits parts := by
  rw [← many_topLevelOf_iff]
  exact Rule.many_bounded_iff TopLevel.withinLimits_nil TopLevel.withinLimits_append

/-- Reading a program follows its rule. -/
theorem program_follows : Follows program programRule := by
  have hmany : Follows (collect atEnd topLevel) (topLevelRule.many programRule.follow) := by
    refine collect_follows atEnd_decides topLevel_follows ?_ ?_
    · intro tokens part hphrase
      obtain ⟨first, rest, htokens, hfollow⟩ := topLevelOf_first hphrase
      exact ⟨first, rest, htokens, rfl, hfollow⟩
    · intro next hnext
      obtain rfl := Option.isNone_iff_eq_none.1 hnext
      exact ⟨rfl, rfl, rfl⟩
  have h : Follows program (topLevelRule.many programRule.follow) :=
    .quiet_bind (enter_quiet _) (hmany.bind_quiet leave_quiet)
  refine fun parser => (h parser).widen (Rule.narrows_of_iff _ ?_ ?_ (fun _ h => h) ?_)
  · exact fun _ _ => many_topLevelOf_iff
  · exact fun _ _ => many_withinLimits_iff
  · intro tokens error hexcess
    obtain ⟨parts, before, back, hbefore, hback, rfl⟩ := hexcess
    obtain ⟨hparts, hlimits⟩ := many_withinLimits_iff.1 hbefore
    exact ⟨before, parts, back, rfl, hparts, hlimits, hback⟩

end Parse

end VinylSyntax
