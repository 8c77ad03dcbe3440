import VinylSyntax.Proofs.Stepping

/-!
# Texts further down

Where a text stands plays no part in how it is cut into lexemes: some lines further down, a lexer
gives the same items that many lines further down. Only the token limit may be reached earlier,
where tokens came before the text; `Item.capped` is what it leaves of the items. See
`items_run_displaced`.
-/

namespace VinylSyntax

/-! ## Places some lines further down -/

/-- The location a number of lines further down, in the same column. -/
def Location.below (lines : Nat) (location : Location) : Location :=
  ⟨location.line + lines, location.column⟩

/-- The span a number of lines further down. -/
def Span.below (lines : Nat) (span : Span) : Span :=
  ⟨span.start.below lines, span.stop.below lines⟩

/-- The token a number of lines further down. -/
def Token.below (lines : Nat) (token : Token) : Token :=
  { token with span := token.span.below lines }

/-- The refusal of a text a number of lines further down. -/
def TokenError.below (lines : Nat) (error : TokenError) : TokenError :=
  { error with span := error.span.below lines }

/-- The error a number of lines further down. -/
def LexicalError.below (lines : Nat) : LexicalError → LexicalError
  | .token error => .token (error.below lines)
  | .unterminatedComment span => .unterminatedComment (span.below lines)
  | .identifierTooLong length span => .identifierTooLong length (span.below lines)
  | .commentTooLong length span => .commentTooLong length (span.below lines)
  | .tooManyTokens count span => .tooManyTokens count (span.below lines)

/-- The item a number of lines further down. -/
def Item.below (lines : Nat) : Item → Item
  | .ok token => .ok (token.below lines)
  | .error error => .error (error.below lines)

namespace Location

/-- A character leads from further down to further down. -/
theorem advance_below (lines : Nat) (location : Location) (char : Char) :
    (location.below lines).advance char = (location.advance char).below lines := by
  unfold advance
  split
  · show (⟨location.line + lines + 1, 1⟩ : Location) = ⟨location.line + 1 + lines, 1⟩
    rw [Nat.add_right_comm]
  · rfl

/-- A text leads from further down to further down. -/
theorem advanceOver_below (lines : Nat) (location : Location) (text : List Char) :
    (location.below lines).advanceOver text = (location.advanceOver text).below lines := by
  induction text generalizing location with
  | nil => rfl
  | cons char text ih => rw [advanceOver_cons, advanceOver_cons, advance_below, ih]

/-- Every newline leads to a further line. -/
theorem line_advanceOver (location : Location) (text : List Char) :
    (location.advanceOver text).line = location.line + text.count '\n' := by
  induction text generalizing location with
  | nil => rfl
  | cons char text ih =>
    rw [advanceOver_cons, ih, List.count_cons]
    by_cases h : char = '\n'
    · simp [advance, h]
      omega
    · simp [advance, h]

end Location

namespace Item

/-- The span of an item further down is its span further down. -/
theorem span_below (lines : Nat) (item : Item) :
    Item.span (Item.below lines item) = (Item.span item).below lines := by
  cases item with
  | ok token => rfl
  | error error => cases error <;> rfl

/-- An item further down is a token if and only if the item is one. -/
theorem isOk_below (lines : Nat) (item : Item) :
    (Item.below lines item).isOk = item.isOk := by
  cases item <;> rfl

/-- Further down there are as many tokens. -/
theorem countP_isOk_map_below (lines : Nat) (items : List Item) :
    (items.map (Item.below lines)).countP Except.isOk = items.countP Except.isOk := by
  rw [List.countP_map]
  exact List.countP_congr fun item _ => by rw [Function.comp_apply, isOk_below]

/-- Further down only the refusal of a further token is one. -/
theorem exists_of_below_eq_tooManyTokens {lines count : Nat} {item : Item} {span : Span}
    (h : Item.below lines item = .error (.tooManyTokens count span)) :
    ∃ other, item = .error (.tooManyTokens count other) := by
  rcases item with (_ | _ | _ | _ | ⟨found, other⟩) | token <;> cases h
  exact ⟨other, rfl⟩

/-- No lines further down, an item is the same. -/
theorem below_zero (item : Item) : Item.below 0 item = item := by
  cases item with
  | ok token => rfl
  | error error => cases error <;> rfl

/-- No lines further down, all items are the same. -/
theorem map_below_zero (items : List Item) : items.map (Item.below 0) = items :=
  List.map_id'' below_zero items

end Item

/-- What is made of a lexeme depends on its place in nothing but the place. -/
theorem Lexeme.token_below (lines : Nat) (lexeme : Lexeme) (span : Span) :
    lexeme.token (span.below lines) = Item.below lines (lexeme.token span) := by
  cases lexeme with
  | number text =>
    simp only [token, Token.float, Token.integer]
    cases FloatLiteral.ofString? (String.ofList text) with
    | some literal => rfl
    | none => cases IntegerLiteral.ofString? (String.ofList text) <;> rfl
  | word text =>
    simp only [token, Token.keyword, Token.identifier]
    repeat' split
    all_goals rfl
  | comment text =>
    simp only [token]
    split <;> rfl
  | openComment text => rfl
  | symbol text =>
    simp only [token, Token.symbol]
    cases Symbol.ofString? (String.ofList text) <;> rfl

/-! ## Items up to the token limit -/

namespace Item

/-- What the token limit leaves of items if a number of tokens was given before: the first item
behind as many tokens as are allowed is refused where it begins, and nothing follows. -/
def capped (given : Nat) : List Item → List Item
  | [] => []
  | item :: items =>
    if Limits.tokenCount ≤ given then
      [.error (.tooManyTokens (given + 1) (.point (Item.span item).start))]
    else item :: capped (given + if item.isOk then 1 else 0) items

/-- Behind as many tokens as are allowed, the first item is refused and the others are dropped. -/
theorem capped_of_full {given : Nat} (h : Limits.tokenCount ≤ given) (item : Item)
    (items : List Item) : capped given (item :: items) =
      [.error (.tooManyTokens (given + 1) (.point (Item.span item).start))] := by
  rw [capped, if_pos h]

/-- Behind fewer tokens than are allowed, the first item is left, and counts if it is a token. -/
theorem capped_of_lt {given : Nat} (h : given < Limits.tokenCount) (item : Item)
    (items : List Item) : capped given (item :: items) =
      item :: capped (given + if item.isOk then 1 else 0) items := by
  rw [capped, if_neg (Nat.not_le_of_lt h)]

/-- Every one of the items stands behind fewer tokens than are allowed, if a number of tokens was
given before. -/
def Allowed (given : Nat) (items : List Item) : Prop :=
  ∀ front item behind, items = front ++ item :: behind →
    given + front.countP Except.isOk < Limits.tokenCount

/-- Items are allowed if the first one is, and the others are behind it. -/
theorem allowed_cons {given : Nat} {item : Item} {items : List Item} :
    Allowed given (item :: items) ↔
      given < Limits.tokenCount ∧ Allowed (given + if item.isOk then 1 else 0) items := by
  constructor
  · intro h
    refine ⟨h [] item items rfl, ?_⟩
    rintro front other behind rfl
    have hfront := h (item :: front) other behind rfl
    rw [List.countP_cons] at hfront
    omega
  · rintro ⟨hfirst, hrest⟩ front other behind hitems
    cases front with
    | nil => exact hfirst
    | cons first front =>
      obtain ⟨rfl, rfl⟩ := List.cons.inj hitems
      have hfront := hrest front other behind rfl
      rw [List.countP_cons]
      omega

/-- Items are allowed exactly if there are no more tokens among them than are allowed, and no error
stands behind the last one that is. -/
theorem allowed_zero_iff {items : List Item} :
    Allowed 0 items ↔ items.countP Except.isOk ≤ Limits.tokenCount ∧
      (items.countP Except.isOk = Limits.tokenCount →
        items.getLast?.any Except.isOk = true) := by
  constructor
  · intro h
    rcases List.eq_nil_or_concat items with rfl | ⟨front, item, rfl⟩
    · exact ⟨Nat.zero_le _, fun hfull => absurd hfull (by decide)⟩
    · rw [List.concat_eq_append] at h ⊢
      have hfront := h front item [] rfl
      rw [List.countP_append, List.countP_singleton, List.getLast?_concat, Option.any_some]
      split
      · next hok => exact ⟨by omega, fun _ => hok⟩
      · exact ⟨by omega, fun hfull => by omega⟩
  · rintro ⟨hcount, hlast⟩ front item behind rfl
    rw [List.countP_append] at hcount hlast
    refine Nat.lt_of_not_le fun hfull => ?_
    -- No token is left for what stands behind the front, but the last item is one.
    have hnone : (item :: behind).countP Except.isOk = 0 := by omega
    have herror := List.countP_eq_zero.1 hnone _ (List.getLast_mem (List.cons_ne_nil item behind))
    have hend := hlast (by omega)
    rw [List.getLast?_append, List.getLast?_eq_some_getLast (List.cons_ne_nil item behind),
      Option.some_or, Option.any_some] at hend
    exact herror hend

/-- Further down there are as many tokens, and the last item is one if it was. -/
theorem allowed_append_below_iff (lines : Nat) {items others : List Item} :
    Allowed 0 (items ++ others.map (Item.below lines)) ↔
      items.countP Except.isOk + others.countP Except.isOk ≤ Limits.tokenCount ∧
        (items.countP Except.isOk + others.countP Except.isOk = Limits.tokenCount →
          (items ++ others).getLast?.any Except.isOk = true) := by
  rw [allowed_zero_iff, List.countP_append, countP_isOk_map_below, List.getLast?_append,
    List.getLast?_append, List.getLast?_map]
  cases others.getLast? with
  | none => rfl
  | some item =>
    rw [Option.map_some, Option.some_or, Option.some_or, Option.any_some, Option.any_some,
      isOk_below]

/-- Of items that are allowed, all are left. -/
theorem capped_eq_self {given : Nat} {items : List Item} (h : Allowed given items) :
    capped given items = items := by
  induction items generalizing given with
  | nil => rfl
  | cons item items ih =>
    obtain ⟨hfirst, hrest⟩ := allowed_cons.1 h
    rw [capped_of_lt hfirst, ih hrest]

/-- Unless an item is refused, all of them are allowed. -/
theorem allowed_of_capped {given : Nat} {items : List Item}
    (h : ∀ count span, (.error (.tooManyTokens count span) : Item) ∉ capped given items) :
    Allowed given items := by
  induction items generalizing given with
  | nil => exact fun front item behind hitems => by simp at hitems
  | cons item items ih =>
    by_cases hfull : Limits.tokenCount ≤ given
    · rw [capped_of_full hfull] at h
      exact absurd (List.mem_singleton_self _) (h _ _)
    · rw [capped_of_lt (Nat.lt_of_not_le hfull)] at h
      exact allowed_cons.2 ⟨Nat.lt_of_not_le hfull,
        ih fun count span hmem => h count span (List.mem_cons_of_mem _ hmem)⟩

/-- As many tokens as are allowed are all left, and count for what is left of the items behind
them. -/
theorem capped_tokens_append {given : Nat} {tokens : List Token} (items : List Item)
    (h : given + tokens.length ≤ Limits.tokenCount) :
    capped given (tokens.map .ok ++ items) =
      tokens.map .ok ++ capped (given + tokens.length) items := by
  induction tokens generalizing given with
  | nil => rfl
  | cons token tokens ih =>
    rw [List.length_cons] at h ⊢
    have hrest : given + 1 + tokens.length ≤ Limits.tokenCount := by omega
    rw [List.map_cons, List.cons_append, capped_of_lt (by omega), ← Nat.add_assoc,
      Nat.add_right_comm]
    exact congrArg _ (ih hrest)

/-- As many tokens as are allowed are all left. -/
theorem capped_tokens {given : Nat} {tokens : List Token}
    (h : given + tokens.length ≤ Limits.tokenCount) :
    capped given (tokens.map .ok) = tokens.map .ok := by
  have happend := capped_tokens_append [] h
  rwa [List.append_nil, capped, List.append_nil] at happend

end Item

/-! ## Lexers in front of a character -/

namespace Lexer

/-- A lexer that has not finished has a character in front of it, behind a gap of white space. -/
structure Faces (lexer : Lexer) (gap : List Char) (first : Char) (tail : List Char) : Prop where
  unfinished : lexer.finished = false
  blank : ∀ char ∈ gap, isBlank char = true
  visible : isBlank first = false
  rest_eq : lexer.cursor.rest = gap ++ first :: tail

variable {lexer other : Lexer} {gap gap' tail tail' : List Char} {first : Char} {lines : Nat}

/-- A lexer that has not finished has a character in front of it, or only white space. -/
theorem blank_or_faces (hfinished : lexer.finished = false) :
    (∀ char ∈ lexer.cursor.rest, isBlank char = true) ∨
      ∃ gap first tail, lexer.Faces gap first tail := by
  have hgap : ∀ char ∈ gapOf lexer.cursor.rest, isBlank char = true :=
    fun _ => isBlank_of_mem_gapOf
  have htext := gapOf_append_behindGap lexer.cursor.rest
  cases hbehind : behindGap lexer.cursor.rest with
  | nil =>
    rw [hbehind, List.append_nil] at htext
    exact .inl (htext ▸ hgap)
  | cons first tail =>
    rw [hbehind] at htext
    exact .inr ⟨_, first, tail, hfinished, hgap, behindGap_head hbehind, htext.symm⟩

/-- Below the token limit, a lexeme is taken at the character. -/
theorem Faces.lexes (h : lexer.Faces gap first tail)
    (hlimit : lexer.metrics.tokens < Limits.tokenCount) : lexer.Lexes gap first tail :=
  lexes_of_rest h.unfinished hlimit h.blank h.visible h.rest_eq

/-- At the token limit, nothing is given but that the character is refused. -/
theorem Faces.items_run_of_full (h : lexer.Faces gap first tail)
    (hlimit : Limits.tokenCount ≤ lexer.metrics.tokens) :
    lexer.run.items = [.error (.tooManyTokens (lexer.metrics.tokens + 1)
      (.point (lexer.location.advanceOver gap)))] := by
  have hitem := (item_eq_tooManyTokens_iff h.unfinished).2
    ⟨hlimit, gap, first, tail, h.rest_eq, h.blank, h.visible, rfl, rfl⟩
  have hends : lexer.next.Ends := .inr ⟨_, _, hitem⟩
  rw [items_run_of_item hitem, items_run_of_finished (ends_iff_finished.1 hends)]

/-- The first item begins at the character. -/
theorem Faces.exists_item (h : lexer.Faces gap first tail) :
    ∃ item items, lexer.run.items = item :: items ∧
      (Item.span item).start = lexer.location.advanceOver gap := by
  by_cases hlimit : Limits.tokenCount ≤ lexer.metrics.tokens
  · exact ⟨_, _, h.items_run_of_full hlimit, rfl⟩
  · have hlexes := h.lexes (Nat.lt_of_not_le hlimit)
    refine ⟨_, _, items_run_of_item hlexes.item_eq, ?_⟩
    exact congrArg Span.start hlexes.fits.span_eq

/-- What a number of steps give of tokens is what a run begins with. -/
theorem tokensWithin_eq (lexer : Lexer) (count : Nat) :
    lexer.tokensWithin count = (lexer.run.items.take count).countP Except.isOk := by
  induction count with
  | zero => rfl
  | succ count ih =>
    rw [tokensWithin] at ih ⊢
    rw [List.range_succ, List.countP_append, ih, List.take_add_one, List.countP_append,
      getElem?_items_run, List.countP_singleton]
    cases (lexer.after count).next.item with
    | none => rfl
    | some item => cases item <;> rfl

/-- A further token is refused only behind as many as are allowed. -/
theorem tokenCount_le_of_refused {count : Nat} {span : Span} {front behind : List Item}
    (h : lexer.run.items = front ++ .error (.tooManyTokens count span) :: behind) :
    Limits.tokenCount ≤ lexer.metrics.tokens + front.countP Except.isOk := by
  have hitem : (lexer.after front.length).next.item =
      some (.error (.tooManyTokens count span)) := by
    rw [← getElem?_items_run, h]
    simp
  have hopen : (lexer.after front.length).finished = false := by
    rw [Bool.eq_false_iff]
    intro hfinished
    rw [next_of_finished hfinished] at hitem
    cases hitem
  have hfull := ((item_eq_tooManyTokens_iff hopen).1 hitem).1
  rwa [tokens_after, tokensWithin_eq, h, List.take_left] at hfull

/-! ## Lexers further down -/

/-- A step over the same lexeme some lines further down gives the item further down. -/
theorem Lexes.next_below (h : lexer.Lexes gap first tail) (h' : other.Lexes gap' first tail')
    (hlexeme : (Lexeme.split first tail').1 = (Lexeme.split first tail).1)
    (hlocation : other.location.advanceOver gap' = (lexer.location.advanceOver gap).below lines) :
    other.next.item = lexer.next.item.map (Item.below lines) ∧
      other.next.lexer.location = lexer.next.lexer.location.below lines := by
  have hstop : other.location.advanceOver (gap' ++ (Lexeme.split first tail').1.text) =
      (lexer.location.advanceOver (gap ++ (Lexeme.split first tail).1.text)).below lines := by
    rw [hlexeme, Location.advanceOver_append, hlocation, Location.advanceOver_below,
      ← Location.advanceOver_append]
  constructor
  · rw [h'.item_eq, h.item_eq, hlocation, hstop, hlexeme]
    exact congrArg some (Lexeme.token_below lines _ ⟨_, _⟩)
  · rw [h'.location_next, h.location_next, hstop]

/-- If two lexers have the same lexeme in front of them, one of them some lines further down, then
what the token limit leaves behind the lexeme carries over to the items in front of it. -/
theorem Faces.items_run_below {more : List Item} (h : lexer.Faces gap first tail)
    (h' : other.Faces gap' first tail')
    (hlocation : other.location.advanceOver gap' = (lexer.location.advanceOver gap).below lines)
    (htokens : lexer.metrics.tokens ≤ other.metrics.tokens)
    (hlexeme : lexer.Lexes gap first tail →
      (Lexeme.split first tail').1 = (Lexeme.split first tail).1)
    (hnext : lexer.Lexes gap first tail → other.Lexes gap' first tail' →
      other.next.lexer.location = lexer.next.lexer.location.below lines →
      lexer.next.lexer.metrics.tokens ≤ other.next.lexer.metrics.tokens →
      other.next.lexer.run.items = Item.capped other.next.lexer.metrics.tokens
        (lexer.next.lexer.run.items.map (Item.below lines) ++ more)) :
    other.run.items =
      Item.capped other.metrics.tokens (lexer.run.items.map (Item.below lines) ++ more) := by
  by_cases hlimit : Limits.tokenCount ≤ other.metrics.tokens
  · obtain ⟨item, items, hitems, hstart⟩ := h.exists_item
    rw [h'.items_run_of_full hlimit, hitems, List.map_cons, List.cons_append,
      Item.capped_of_full hlimit, Item.span_below, hlocation, ← hstart]
    rfl
  · have hlt := Nat.lt_of_not_le hlimit
    have hlexes := h.lexes (by omega)
    have hlexes' := h'.lexes hlt
    obtain ⟨hbelow, hplace⟩ := hlexes.next_below hlexes' (hlexeme hlexes) hlocation
    obtain ⟨item, hitem⟩ : ∃ item, lexer.next.item = some item := ⟨_, hlexes.item_eq⟩
    rw [hitem] at hbelow
    -- Both lexers count the item, or neither does.
    have hcount := lexer.tokens_next
    have hcount' := other.tokens_next
    simp only [hitem, hbelow, Option.map_some, Option.any_some, Item.isOk_below] at hcount hcount'
    rw [items_run_of_item hbelow, items_run_of_item hitem, List.map_cons, List.cons_append,
      Item.capped_of_lt hlt, Item.isOk_below, ← hcount', hnext hlexes hlexes' hplace (by omega)]

/-- A lexer that has the text of another one in front of it, behind white space and some lines
further down, gives the same items, as far as the tokens that it gave before allow. -/
theorem items_run_displaced {pad : List Char} (hfinished : lexer.finished = false)
    (hfinished' : other.finished = false) (hpad : ∀ char ∈ pad, isBlank char = true)
    (hrest : other.cursor.rest = pad ++ lexer.cursor.rest)
    (hlocation : other.location.advanceOver pad = lexer.location.below lines)
    (htokens : lexer.metrics.tokens ≤ other.metrics.tokens) :
    other.run.items =
      Item.capped other.metrics.tokens (lexer.run.items.map (Item.below lines)) := by
  induction hremaining : lexer.remaining using Nat.strongRecOn generalizing lexer other pad with
  | ind _ ih =>
    rcases blank_or_faces hfinished with hblank | ⟨gap, first, tail, hfaces⟩
    · have hblank' : ∀ char ∈ other.cursor.rest, isBlank char = true := by
        rw [hrest]
        exact List.forall_mem_append.2 ⟨hpad, hblank⟩
      rw [items_run_of_none ((item_eq_none_iff hfinished').2 hblank'),
        items_run_of_none ((item_eq_none_iff hfinished).2 hblank)]
      rfl
    · have hfaces' : other.Faces (pad ++ gap) first tail :=
        { unfinished := hfinished'
          blank := List.forall_mem_append.2 ⟨hpad, hfaces.blank⟩
          visible := hfaces.visible
          rest_eq := by rw [hrest, hfaces.rest_eq, List.append_assoc] }
      have hstart : other.location.advanceOver (pad ++ gap) =
          (lexer.location.advanceOver gap).below lines := by
        rw [Location.advanceOver_append, hlocation, Location.advanceOver_below]
      rw [← List.append_nil (lexer.run.items.map _)]
      refine hfaces.items_run_below hfaces' hstart htokens (fun _ => rfl)
        fun hlexes hlexes' hplace htokens' => ?_
      have hlt := lexer.remaining_next_lt (by simp [hlexes.item_eq])
      have hsame : other.next.lexer.cursor.rest = [] ++ lexer.next.lexer.cursor.rest :=
        hlexes'.rest_next.trans hlexes.rest_next.symm
      rw [List.append_nil]
      exact ih _ (by omega) hlexes.finished_next hlexes'.finished_next (by simp) hsame hplace
        htokens' rfl

end Lexer

end VinylSyntax
