import Mathlib.Data.List.Nodup
import VinylSyntax.Json.Encode
import VinylSyntax.Proofs.Composition
import VinylSyntax.Proofs.Derived
import VinylSyntax.Proofs.WellFormed

/-!
# What JSON values tell

The JSON value of a kind of token tells the kind, but for the value of a floating point literal, of
which it holds the shortest text. The text of a token tells that one too, as tokens are well-formed,
and the JSON value of a tree tells which tree it is, made of which tokens. So sources with the same
JSON values have the same tokens and the same trees: see `json_tells`.
-/

namespace VinylSyntax

/-! ## Names and numbers -/

/-- Constants are told by their names if these differ along a list of all constants. -/
theorem name_injective_of_nodup {α : Type} {all : List α} {name : α → String}
    (hall : ∀ constant, constant ∈ all) (hname : (all.map name).Nodup) :
    Function.Injective name :=
  fun a b h => List.inj_on_of_nodup_map hname (hall a) (hall b) h

/-- Keywords differ in their names. -/
theorem Keyword.name_injective : Function.Injective Keyword.name :=
  name_injective_of_nodup mem_all (by decide +kernel)

/-- Symbols differ in their names. -/
theorem Symbol.name_injective : Function.Injective Symbol.name :=
  name_injective_of_nodup mem_all (by decide +kernel)

/-- The list of all bases has every one of them. -/
theorem IntegerBase.mem_all (base : IntegerBase) : base ∈ all := by
  cases base <;> decide

/-- Bases differ in their names. -/
theorem IntegerBase.name_injective : Function.Injective IntegerBase.name :=
  name_injective_of_nodup mem_all (by decide +kernel)

/-- The list of all kinds of integers has every one of them. -/
theorem IntegerKind.mem_all (kind : IntegerKind) : kind ∈ all := by
  cases kind <;> decide

/-- Kinds of integers differ in their names. -/
theorem IntegerKind.name_injective : Function.Injective IntegerKind.name :=
  name_injective_of_nodup mem_all (by decide +kernel)

/-- The list of all kinds of floating point numbers has every one of them. -/
theorem FloatKind.mem_all (kind : FloatKind) : kind ∈ all := by
  cases kind <;> decide

/-- Kinds of floating point numbers differ in their names. -/
theorem FloatKind.name_injective : Function.Injective FloatKind.name :=
  name_injective_of_nodup mem_all (by decide +kernel)

/-- A number is told by its decimal digits. -/
theorem toDigits_injective : Function.Injective (Nat.toDigits 10) := by
  intro n m h
  have hvalue := congrArg (Nat.ofDigitChars 10 · 0) h
  simpa only [Nat.ofDigitChars_ten_toDigits] using hvalue

/-- Natural numbers differ as values of JSON. -/
theorem Json.nat_injective : Function.Injective Json.nat := by
  intro n m h
  have htext : toString n = toString m := Json.number.inj h
  rw [Nat.toString_eq_ofList_toDigits, Nat.toString_eq_ofList_toDigits] at htext
  exact toDigits_injective (String.ofList_injective htext)

/-- Objects with the same first key are equal just if what stands under it is, and the rest. -/
theorem Json.object_cons_inj {key : String} {value other : Json}
    {members others : List (String × Json)} :
    object ((key, value) :: members) = object ((key, other) :: others) ↔
      value = other ∧ object members = object others := by
  simp

/-! ## Tokens -/

/-- Locations differ as values of JSON. -/
theorem Location.json_injective : Function.Injective Location.json := by
  rintro ⟨line, column⟩ ⟨line', column'⟩ h
  simp only [Location.json, Json.object_cons_inj, and_true] at h
  rw [Json.nat_injective h.1, Json.nat_injective h.2]

/-- Spans differ as values of JSON. -/
theorem Span.json_injective : Function.Injective Span.json := by
  rintro ⟨start, stop⟩ ⟨start', stop'⟩ h
  simp only [Span.json, Json.object_cons_inj, and_true] at h
  rw [Location.json_injective h.1, Location.json_injective h.2]

/-- Integers differ as values of JSON. -/
theorem IntegerLiteral.json_injective : Function.Injective IntegerLiteral.json := by
  rintro ⟨value, base, kind⟩ ⟨value', base', kind'⟩ h
  simp only [IntegerLiteral.json, Json.object_cons_inj, Json.string.injEq, and_true] at h
  obtain ⟨hvalue, hbase, hkind⟩ := h
  have hdigits := String.ofList_injective hvalue
  rw [Numeral.digitsOf_eq_toDigits (by decide),
    Numeral.digitsOf_eq_toDigits (by decide)] at hdigits
  rw [toDigits_injective hdigits, IntegerBase.name_injective hbase,
    IntegerKind.name_injective hkind]

/-- The JSON value of a kind tells the kind, but for floating point values with the same text. -/
theorem TokenKind.json_told {kind other : TokenKind} (h : kind.json = other.json) :
    kind = other ∨ ∃ literal literal' : FloatLiteral,
      kind = .float literal ∧ other = .float literal' ∧ literal.kind = literal'.kind ∧
        literal.value.json = literal'.value.json := by
  cases kind <;> cases other <;>
    simp only [TokenKind.json, Json.object_cons_inj, Json.string.injEq, String.reduceEq,
      false_and, true_and, and_true] at h
  case integer.integer literal literal' => exact .inl (by rw [IntegerLiteral.json_injective h])
  case float.float literal literal' =>
    simp only [FloatLiteral.json, Json.object_cons_inj, Json.string.injEq, and_true] at h
    exact .inr ⟨literal, literal', rfl, rfl, FloatKind.name_injective h.2, h.1⟩
  case keyword.keyword word word' => exact .inl (by rw [Keyword.name_injective h])
  case symbol.symbol mark mark' => exact .inl (by rw [Symbol.name_injective h])
  all_goals exact .inl rfl

/-- Well-formed tokens are told by their JSON values: the text tells the kind with what was decoded,
even where the kind holds an infinite value. -/
theorem Token.json_told {token other : Token} (hadmits : token.kind.Admits token.text.toList)
    (hadmits' : other.kind.Admits other.text.toList) (h : token.json = other.json) :
    token = other := by
  simp only [Token.json, Json.object_cons_inj, Json.string.injEq, and_true] at h
  obtain ⟨-, htext, hspan⟩ := h
  rw [← htext] at hadmits'
  obtain ⟨kind, text, span⟩ := token
  obtain ⟨kind', text', span'⟩ := other
  obtain rfl : kind = kind' := hadmits.unique hadmits'
  obtain rfl : text = text' := htext
  obtain rfl : span = span' := Span.json_injective hspan
  rfl

/-! ## Trees -/

/-- What is encoded item by item is told if the items are. -/
theorem map_json_told {α : Type} {encode : α → Json} {items others : List α}
    (htold : ∀ item ∈ items, ∀ other ∈ others, encode item = encode other → item = other)
    (h : items.map encode = others.map encode) : items = others := by
  induction items generalizing others with
  | nil => exact (List.map_eq_nil_iff.1 h.symm).symm
  | cons item items ih =>
    cases others with
    | nil => cases h
    | cons other others =>
      obtain ⟨hhead, htail⟩ := List.cons.inj h
      rw [htold item (by simp) other (by simp) hhead,
        ih (fun item hitem other hother => htold item (by simp [hitem]) other (by simp [hother]))
          htail]

/-- A value that may be missing is told if the value is, and is not null. -/
theorem Json.ofOption_told {α : Type} {encode : α → Json} {value other : Option α}
    (hnull : ∀ a, encode a ≠ .null)
    (htold : ∀ a ∈ value, ∀ b ∈ other, encode a = encode b → a = b)
    (h : ofOption (value.map encode) = ofOption (other.map encode)) : value = other := by
  cases value with
  | none =>
    cases other with
    | none => rfl
    | some b => exact absurd h.symm (hnull b)
  | some a =>
    cases other with
    | none => exact absurd h (hnull a)
    | some b => rw [htold a rfl b rfl h]

/-- Tokens of a sort are told by their JSON values. -/
def Token.Told (leaf : Token → Prop) : Prop :=
  ∀ token other, leaf token → leaf other → token.json = other.json → token = other

/-- No expression is written as if it were missing. -/
theorem Expression.json_ne_null (expression : Expression) : expression.json ≠ .null := by
  cases expression <;> simp [Expression.json]

/-- No name of a type is written as if it were missing. -/
theorem TypeName.json_ne_null (typeName : TypeName) : typeName.json ≠ .null := by
  simp [TypeName.json]

variable {leaf : Token → Prop}

section parts

variable (hleaf : Token.Told leaf)

include hleaf

/-- Identifiers are told by their JSON if their tokens are. -/
theorem Identifier.json_told {identifier other : Identifier} (hwell : identifier.WellFormed leaf)
    (hwell' : other.WellFormed leaf) (h : identifier.json = other.json) : identifier = other := by
  simp only [Identifier.json, Json.object_cons_inj, and_true] at h
  exact congrArg Identifier.mk (hleaf _ _ hwell.2 hwell'.2 h)

/-- Names of types are told by their JSON if their tokens are. -/
theorem TypeName.json_told {typeName other : TypeName} (hwell : typeName.WellFormed leaf)
    (hwell' : other.WellFormed leaf) (h : typeName.json = other.json) : typeName = other := by
  simp only [TypeName.json, Json.object_cons_inj, and_true] at h
  exact congrArg TypeName.mk (hleaf _ _ hwell.2 hwell'.2 h)

/-- Arguments are told by their JSON if their tokens are. -/
theorem Argument.json_told {argument other : Argument} (hwell : argument.WellFormed leaf)
    (hwell' : other.WellFormed leaf) (h : argument.json = other.json) : argument = other := by
  simp only [Argument.json, Json.object_cons_inj, and_true] at h
  obtain ⟨identifier, typeName⟩ := argument
  obtain ⟨identifier', typeName'⟩ := other
  obtain rfl : identifier = identifier' := Identifier.json_told hleaf hwell.1 hwell'.1 h.1
  obtain rfl : typeName = typeName' := TypeName.json_told hleaf hwell.2 hwell'.2 h.2
  rfl

/-- Expressions are told by their JSON if their tokens are. -/
theorem Expression.json_told {expression other : Expression} (hwell : expression.WellFormed leaf)
    (hwell' : other.WellFormed leaf) (h : expression.json = other.json) : expression = other := by
  obtain ⟨-, htoken⟩ := hwell
  obtain ⟨-, htoken'⟩ := hwell'
  cases expression <;> cases other <;>
    simp only [Expression.json, Identifier.json, Json.object_cons_inj, Json.string.injEq,
      String.reduceEq, false_and, true_and, and_true] at h
  case identifier.identifier name name' =>
    exact congrArg (fun token => Expression.identifier ⟨token⟩) (hleaf _ _ htoken htoken' h)
  case integer.integer token token' =>
    exact congrArg Expression.integer (hleaf _ _ htoken htoken' h)
  case float.float token token' =>
    exact congrArg Expression.float (hleaf _ _ htoken htoken' h)

/-- Declarations are told by their JSON if their tokens are. -/
theorem Declaration.json_told {declared other : Declaration} (hwell : declared.WellFormed leaf)
    (hwell' : other.WellFormed leaf) (h : declared.json = other.json) : declared = other := by
  obtain ⟨hname, htype, hvalue⟩ := hwell
  obtain ⟨hname', htype', hvalue'⟩ := hwell'
  simp only [Declaration.json, Json.object_cons_inj, and_true] at h
  obtain ⟨identifier, typeName, value⟩ := declared
  obtain ⟨identifier', typeName', value'⟩ := other
  obtain rfl : identifier = identifier' := Identifier.json_told hleaf hname hname' h.1
  obtain rfl : typeName = typeName' := TypeName.json_told hleaf htype htype' h.2.1
  obtain rfl : value = value' :=
    Json.ofOption_told Expression.json_ne_null
      (fun a ha b hb => Expression.json_told hleaf (hvalue a ha) (hvalue' b hb)) h.2.2
  rfl

end parts

mutual

/-- Statements are told by their JSON if their tokens are. -/
theorem Statement.json_told (hleaf : Token.Told leaf) {statement other : Statement}
    (hwell : statement.WellFormed leaf) (hwell' : other.WellFormed leaf)
    (h : statement.json = other.json) : statement = other := by
  cases statement <;> cases other <;>
    simp only [Statement.json, Json.object_cons_inj, Json.string.injEq, Json.array.injEq,
      String.reduceEq, false_and, true_and, and_true] at h
  case expression.expression operand operand' =>
    exact congrArg Statement.expression (Expression.json_told hleaf hwell hwell' h)
  case conditional.conditional condition whenTrue whenFalse condition' whenTrue' whenFalse' =>
    obtain ⟨hcondition, hfirst, hsecond⟩ := hwell
    obtain ⟨hcondition', hfirst', hsecond'⟩ := hwell'
    rw [Expression.json_told hleaf hcondition hcondition' h.1,
      Statement.jsonItems_told hleaf hfirst hfirst' h.2.1,
      Statement.jsonItems_told hleaf hsecond hsecond' h.2.2]
  case declaration.declaration declared declared' =>
    exact congrArg Statement.declaration (Declaration.json_told hleaf hwell hwell' h)

/-- Lists of statements are told by their JSON if their tokens are. -/
theorem Statement.jsonItems_told (hleaf : Token.Told leaf) {statements others : List Statement}
    (hwell : Statement.WellFormedIn leaf statements) (hwell' : Statement.WellFormedIn leaf others)
    (h : Statement.jsonItems statements = Statement.jsonItems others) : statements = others := by
  cases statements with
  | nil =>
    cases others with
    | nil => rfl
    | cons other others => cases h
  | cons statement statements =>
    cases others with
    | nil => cases h
    | cons other others =>
      obtain ⟨hhead, htail⟩ := List.cons.inj h
      rw [Statement.json_told hleaf hwell.1 hwell'.1 hhead,
        Statement.jsonItems_told hleaf hwell.2 hwell'.2 htail]

end

/-- Functions are told by their JSON if their tokens are. -/
theorem Function.json_told (hleaf : Token.Told leaf) {definition other : Function}
    (hwell : definition.WellFormed leaf) (hwell' : other.WellFormed leaf)
    (h : definition.json = other.json) : definition = other := by
  obtain ⟨hname, harguments, htype, hbody⟩ := hwell
  obtain ⟨hname', harguments', htype', hbody'⟩ := hwell'
  simp only [Function.json, Json.object_cons_inj, Json.array.injEq, and_true] at h
  obtain ⟨identifier, arguments, returnType, body⟩ := definition
  obtain ⟨identifier', arguments', returnType', body'⟩ := other
  obtain rfl : identifier = identifier' := Identifier.json_told hleaf hname hname' h.1
  obtain rfl : arguments = arguments' :=
    map_json_told
      (fun a ha b hb => Argument.json_told hleaf (harguments a ha) (harguments' b hb)) h.2.1
  obtain rfl : returnType = returnType' :=
    Json.ofOption_told TypeName.json_ne_null
      (fun a ha b hb => TypeName.json_told hleaf (htype a ha) (htype' b hb)) h.2.2.1
  obtain rfl : body = body' := Statement.jsonItems_told hleaf hbody hbody' h.2.2.2
  rfl

/-- Parts of programs are told by their JSON if their tokens are. -/
theorem TopLevel.json_told (hleaf : Token.Told leaf) {part other : TopLevel}
    (hwell : part.WellFormed leaf) (hwell' : other.WellFormed leaf) (h : part.json = other.json) :
    part = other := by
  cases part <;> cases other <;>
    simp only [TopLevel.json, Json.object_cons_inj, Json.string.injEq, String.reduceEq,
      false_and, true_and, and_true] at h
  case function.function definition definition' =>
    exact congrArg TopLevel.function (Function.json_told hleaf hwell hwell' h)
  case statement.statement content content' =>
    exact congrArg TopLevel.statement (Statement.json_told hleaf hwell hwell' h)

/-! ## Sources -/

/-- The tokens of sources are told by their JSON values. -/
theorem Token.told_admits : Token.Told fun token => token.kind.Admits token.text.toList :=
  fun _ _ => Token.json_told

/-- The tokens of a source without errors are well-formed. -/
theorem admits_of_tokenize {preferences : LexicalPreferences} {source : String}
    {tokens : List Token} (h : tokenize preferences source = .ok tokens) :
    ∀ token ∈ tokens, token.kind.Admits token.text.toList := by
  intro token hmem
  refine @Lexer.admits_of_mem (.ofString preferences source) token ?_
  rw [(tokenize_eq_ok_iff _ _ _).1 h]
  exact List.mem_map_of_mem hmem

/-- The tree of a source is well-formed, and so are its leaves. -/
theorem wellFormed_of_parseSource {preferences : Preferences} {source : String}
    {parts : List TopLevel} (h : (parseSource preferences source).result = .ok parts) :
    ∀ part ∈ parts, part.WellFormed fun token => token.kind.Admits token.text.toList := by
  obtain ⟨hitems, hprogram, -⟩ := program_of_parseSource h
  exact hprogram.wellFormed fun token hmem =>
    admits_of_tokenize ((tokenize_eq_ok_iff _ _ _).2 hitems) token (List.mem_filter.1 hmem).1

/-- Whatever the preferences, sources without errors have the same tokens if the JSON values of
these are the same, and sources that are programs have the same trees if the JSON values of these
are: kinds and decoded literals, texts and places are all told. What is decoded is told by the kind
itself, but for floating point values with the same text. -/
theorem json_tells :
    (∀ kind other : TokenKind, kind.json = other.json →
      kind = other ∨ ∃ literal literal' : FloatLiteral,
        kind = .float literal ∧ other = .float literal' ∧ literal.kind = literal'.kind ∧
          literal.value.json = literal'.value.json) ∧
    (∀ preferences preferences' source source' tokens tokens',
      tokenize preferences source = .ok tokens → tokenize preferences' source' = .ok tokens' →
      Json.array (tokens.map Token.json) = .array (tokens'.map Token.json) → tokens = tokens') ∧
    ∀ preferences preferences' source source' parts parts',
      (parseSource preferences source).result = .ok parts →
      (parseSource preferences' source').result = .ok parts' →
      Json.array (parts.map TopLevel.json) = .array (parts'.map TopLevel.json) →
      parts = parts' := by
  refine ⟨fun _ _ => TokenKind.json_told, ?_, ?_⟩
  · intro preferences preferences' source source' tokens tokens' h h' hjson
    refine map_json_told (fun token hmem other hmem' => ?_) (Json.array.inj hjson)
    exact Token.json_told (admits_of_tokenize h token hmem) (admits_of_tokenize h' other hmem')
  · intro preferences preferences' source source' parts parts' h h' hjson
    refine map_json_told (fun part hmem other hmem' => ?_) (Json.array.inj hjson)
    exact TopLevel.json_told Token.told_admits (wellFormed_of_parseSource h part hmem)
      (wellFormed_of_parseSource h' other hmem')

/-- An infinite value is null, and a tree is told all the same; a comment behind it has no part in
it. -/
theorem json_tells_infinite :
    let kind : TokenKind := .float ⟨.infinity, .unsized⟩
    let place : Span := ⟨⟨1, 1⟩, ⟨1, 6⟩⟩
    kind.json = .object [("type", .string "Float"),
        ("value", .object [("value", .null), ("kind", .string "Unsized")])] ∧
      (∃ tokens tokens', tokenize ⟨true, false⟩ "1e400" = .ok tokens ∧
        tokenize ⟨false, true⟩ "1e400\n" = .ok tokens' ∧
        Json.array (tokens.map Token.json) = .array (tokens'.map Token.json) ∧
        tokens = tokens') ∧
      ∃ parts parts', (parseSource default "1e400;").result = .ok parts ∧
        (parseSource default "1e400;/**/").result = .ok parts' ∧
        Json.array (parts.map TopLevel.json) = .array (parts'.map TopLevel.json) ∧
        parts = parts' ∧
        parts = [.statement (.expression (.float ⟨kind, "1e400", place⟩))] := by
  intro kind place
  have htokens : tokenize ⟨true, false⟩ "1e400" = .ok [⟨kind, "1e400", place⟩] := by
    with_unfolding_all rfl
  have htokens' : tokenize ⟨false, true⟩ "1e400\n" = .ok [⟨kind, "1e400", place⟩] := by
    with_unfolding_all rfl
  have hparts : (parseSource default "1e400;").result =
      .ok [.statement (.expression (.float ⟨kind, "1e400", place⟩))] := by
    with_unfolding_all rfl
  have hparts' : (parseSource default "1e400;/**/").result =
      .ok [.statement (.expression (.float ⟨kind, "1e400", place⟩))] := by
    with_unfolding_all rfl
  obtain ⟨-, htell, htell'⟩ := json_tells
  exact ⟨rfl, ⟨_, _, htokens, htokens', rfl, htell _ _ _ _ _ _ htokens htokens' rfl⟩,
    _, _, hparts, hparts', rfl, htell' _ _ _ _ _ _ hparts hparts' rfl, rfl⟩

end VinylSyntax
