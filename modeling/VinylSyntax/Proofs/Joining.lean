import VinylSyntax.Proofs.Displacement

/-!
# Texts joined at a newline

A newline behind a text is for its last lexeme what the end of the text is: it is no part of a
number, a word, a line comment or a symbol, and a point or a sign in front of it is taken as it is
at the end. Only a block comment without end would go on behind it. So of two sources with a newline
between them, the second one is lexed as if it stood alone, further down, as far as the token limit
allows: see `items_run_joined`.
-/

namespace VinylSyntax

/-! ## Lexemes in front of a newline -/

/-- A scan that stops at a newline, and sees no difference between a newline and the end behind a
character, splits a text in front of a newline as it does alone. -/
theorem splitWhere_newline (stop : Option Char → Char → Option Char → Bool)
    (hnewline : ∀ previous next, stop previous '\n' next = true)
    (hend : ∀ previous char, stop previous char (some '\n') = stop previous char none)
    (scanned text more : List Char) :
    splitWhere stop scanned (text ++ '\n' :: more) =
      ((splitWhere stop scanned text).1, (splitWhere stop scanned text).2 ++ '\n' :: more) := by
  induction text generalizing scanned with
  | nil => simp [splitWhere, hnewline]
  | cons char text ih =>
    have htest : stop scanned.head? char (text ++ '\n' :: more).head? =
        stop scanned.head? char text.head? := by
      cases text with
      | nil => exact hend _ _
      | cons next text => rfl
    rw [List.cons_append, splitWhere, splitWhere, htest]
    split
    · rfl
    · exact ih _

namespace Lexeme

/-- A line comment ends in front of a newline as it does at the end. -/
theorem splitLine_newline (body more : List Char) :
    splitLine (body ++ '\n' :: more) =
      ((splitLine body).1, (splitLine body).2 ++ '\n' :: more) := by
  have hsplit := splitWhere_newline endsLine (fun _ _ => rfl) (fun _ _ => rfl) [] body more
  simp only [splitLine, hsplit]

/-- A block comment that is closed is the same in front of a newline. -/
theorem splitBlock_newline {body rest : List Char} {lexeme : Lexeme} (more : List Char)
    (h : splitBlock body = (lexeme, rest)) (hclosed : ∀ text, lexeme ≠ .openComment text) :
    splitBlock (body ++ '\n' :: more) = (lexeme, rest ++ '\n' :: more) := by
  obtain ⟨inner, rfl, rfl⟩ := splitBlock_inv h hclosed
  rw [List.append_assoc]
  exact splitBlock_replace _ h rfl

/-- A symbol is the same in front of a newline as at the end. -/
theorem splitSymbol_newline (first : Char) (rest more : List Char) :
    splitSymbol first (rest ++ '\n' :: more) =
      ((splitSymbol first rest).1, (splitSymbol first rest).2 ++ '\n' :: more) := by
  cases rest with
  | nil => simp [splitSymbol, ofPair?_of_isBlank (show isBlank '\n' = true from rfl)]
  | cons second tail =>
    rw [List.cons_append, splitSymbol, splitSymbol]
    split <;> rfl

/-- A lexeme that has an end is the same in front of a newline. -/
theorem split_newline {first : Char} {rest : List Char} (more : List Char)
    (hclosed : ∀ text, (split first rest).1 ≠ .openComment text) :
    split first (rest ++ '\n' :: more) =
      ((split first rest).1, (split first rest).2 ++ '\n' :: more) := by
  by_cases hdigit : isDigit first = true
  · have hsplit := splitWhere_newline endsNumber
      (fun previous next => endsNumber_of_isBlank rfl previous next) (fun _ _ => rfl)
      [first] rest more
    simp only [split_of_isDigit hdigit, hsplit]
  · by_cases hword : beginsWord first = true
    · have hsplit := splitWhere_newline endsWord (fun _ _ => rfl) (fun _ _ => rfl)
        [first] rest more
      simp only [split_of_beginsWord hword, hsplit]
    · unfold split at hclosed ⊢
      rw [if_neg hdigit, if_neg hword] at hclosed
      rw [if_neg hdigit, if_neg hdigit, if_neg hword, if_neg hword]
      split at hclosed
      · exact splitLine_newline _ more
      · exact splitBlock_newline more rfl hclosed
      · next _ _ hslash hasterisk =>
        -- The newline is neither of the characters that make a comment of a slash.
        have hbegins : ∀ char body, first = '/' → rest ++ '\n' :: more = char :: body →
            char ≠ '/' ∧ char ≠ '*' := by
          intro char body hfirst hbody
          cases rest with
          | nil =>
            obtain ⟨rfl, -⟩ := List.cons.inj hbody
            decide
          | cons second tail =>
            obtain ⟨rfl, -⟩ := List.cons.inj hbody
            refine ⟨?_, ?_⟩
            · rintro rfl
              exact hslash tail hfirst rfl
            · rintro rfl
              exact hasterisk tail hfirst rfl
        split
        · next hbody => exact absurd rfl (hbegins _ _ rfl hbody).1
        · next hbody => exact absurd rfl (hbegins _ _ rfl hbody).2
        · exact splitSymbol_newline _ rest more

end Lexeme

/-! ## Lexers -/

namespace Lexer

/-- If no comment is without end, no lexeme is such a comment. -/
theorem Lexes.closed {lexer : Lexer} {gap tail : List Char} {first : Char}
    (h : lexer.Lexes gap first tail)
    (hclosed : ∀ span, (.error (.unterminatedComment span) : Item) ∉ lexer.run.items)
    (text : List Char) : (Lexeme.split first tail).1 ≠ .openComment text := by
  intro hopen
  obtain ⟨span, hitem⟩ : ∃ span, lexer.next.item = some (.error (.unterminatedComment span)) := by
    rw [h.item_eq, hopen]
    exact ⟨_, rfl⟩
  refine hclosed span ?_
  rw [items_run_of_item hitem]
  exact List.mem_cons_self

/-- A lexer whose text is followed by a newline and a further text gives its items, and then those
of the further text some lines further down, as far as the token limit allows. -/
theorem items_run_followed {preferences : LexicalPreferences} {lexer other : Lexer}
    {second : String} {lines : Nat}
    (hfinished : lexer.finished = false) (hfinished' : other.finished = false)
    (hclosed : ∀ span, (.error (.unterminatedComment span) : Item) ∉ lexer.run.items)
    (hrest : other.cursor.rest = lexer.cursor.rest ++ '\n' :: second.toList)
    (hlocation : other.location = lexer.location)
    (hlines : (lexer.location.advanceOver lexer.cursor.rest).advance '\n' =
      Location.start.below lines)
    (htokens : lexer.metrics.tokens ≤ other.metrics.tokens) :
    other.run.items = Item.capped other.metrics.tokens (lexer.run.items ++
      (ofString preferences second).run.items.map (Item.below lines)) := by
  induction hremaining : lexer.remaining using Nat.strongRecOn generalizing lexer other with
  | ind _ ih =>
    rcases blank_or_faces hfinished with hblank | ⟨gap, first, tail, hfaces⟩
    · -- The rest of the first text and the newline are white space in front of the second text.
      have hpad : ∀ char ∈ lexer.cursor.rest ++ ['\n'], isBlank char = true :=
        List.forall_mem_append.2 ⟨hblank, List.forall_mem_singleton.2 rfl⟩
      rw [items_run_of_none ((item_eq_none_iff hfinished).2 hblank), List.nil_append]
      refine items_run_displaced rfl hfinished' hpad ?_ ?_ (Nat.zero_le _)
      · rw [hrest, List.append_assoc]
        rfl
      · rw [hlocation, Location.advanceOver_append]
        exact hlines
    · have hfaces' : other.Faces gap first (tail ++ '\n' :: second.toList) :=
        { unfinished := hfinished'
          blank := hfaces.blank
          visible := hfaces.visible
          rest_eq := by rw [hrest, hfaces.rest_eq, List.append_assoc, List.cons_append] }
      have hstart : other.location.advanceOver gap = (lexer.location.advanceOver gap).below 0 := by
        rw [hlocation]
        rfl
      have hsplit : lexer.Lexes gap first tail →
          Lexeme.split first (tail ++ '\n' :: second.toList) = ((Lexeme.split first tail).1,
            (Lexeme.split first tail).2 ++ '\n' :: second.toList) :=
        fun hlexes => Lexeme.split_newline _ (hlexes.closed hclosed)
      rw [← Item.map_below_zero lexer.run.items]
      refine hfaces.items_run_below hfaces' hstart htokens (fun hlexes => by rw [hsplit hlexes])
        fun hlexes hlexes' hplace htokens' => ?_
      have hlt := lexer.remaining_next_lt (by simp [hlexes.item_eq])
      rw [Item.map_below_zero]
      refine ih _ (by omega) hlexes.finished_next hlexes'.finished_next ?_ ?_ hplace ?_ htokens' rfl
      · intro span hmem
        refine hclosed span ?_
        rw [items_run_of_item hlexes.item_eq]
        exact List.mem_cons_of_mem _ hmem
      · rw [hlexes'.rest_next, hlexes.rest_next, hsplit hlexes]
      · rw [hlexes.location_next, hlexes.rest_next, ← Location.advanceOver_append,
          List.append_assoc, Lexeme.text_append_rest, ← hfaces.rest_eq]
        exact hlines

/-- The items of two sources with a newline between them, as far as the token limit allows. -/
theorem items_run_ofString_joined (preferences : LexicalPreferences) (first second : String)
    (hclosed : ∀ span, (.error (.unterminatedComment span) : Item) ∉
      (ofString preferences first).run.items) :
    (ofString preferences (first ++ "\n" ++ second)).run.items =
      Item.capped 0 ((ofString preferences first).run.items ++
        (ofString preferences second).run.items.map
          (Item.below (first.toList.count '\n' + 1))) := by
  have hrest : (ofString preferences (first ++ "\n" ++ second)).cursor.rest =
      first.toList ++ '\n' :: second.toList := by
    show (first ++ "\n" ++ second).toList = _
    simp
  have hlines : (Location.start.advanceOver first.toList).advance '\n' =
      Location.start.below (first.toList.count '\n' + 1) := by
    rw [Location.advance, if_pos rfl, Location.line_advanceOver]
    show (⟨1 + first.toList.count '\n' + 1, 1⟩ : Location) = ⟨1 + (_ + 1), 1⟩
    rw [Nat.add_assoc]
  exact items_run_followed rfl rfl hclosed hrest rfl hlines (Nat.le_refl _)

/-- If the items of two sources are allowed one behind the other, none of them is a refusal. -/
theorem not_refused_of_allowed {preferences : LexicalPreferences} {first second : String}
    {lines : Nat} (h : Item.Allowed 0 ((ofString preferences first).run.items ++
      (ofString preferences second).run.items.map (Item.below lines))) (count : Nat) (span : Span) :
    (.error (.tooManyTokens count span) : Item) ∉ (ofString preferences first).run.items ++
      (ofString preferences second).run.items.map (Item.below lines) := by
  intro hmem
  rcases List.mem_append.1 hmem with hfirst | hsecond
  · obtain ⟨front, behind, hitems⟩ := List.append_of_mem hfirst
    have hfull := tokenCount_le_of_refused hitems
    have hlt := h front _ _ (by rw [hitems, List.append_assoc, List.cons_append])
    exact absurd (Nat.lt_of_le_of_lt hfull hlt) (Nat.lt_irrefl _)
  · obtain ⟨item, hitem, hbelow⟩ := List.mem_map.1 hsecond
    obtain ⟨other, rfl⟩ := Item.exists_of_below_eq_tooManyTokens hbelow
    obtain ⟨front, behind, hitems⟩ := List.append_of_mem hitem
    have hfull := tokenCount_le_of_refused hitems
    have hlt := h ((ofString preferences first).run.items ++ front.map (Item.below lines)) _ _
      (by rw [hitems, List.map_append, List.map_cons, List.append_assoc])
    rw [List.countP_append, Item.countP_isOk_map_below] at hlt
    have hnone : (ofString preferences second).metrics.tokens = 0 := rfl
    omega

/-- A text of semicolons gives a token for each of them, as far as tokens are allowed. -/
theorem items_run_of_semicolons {lexer : Lexer} {count : Nat} (hfinished : lexer.finished = false)
    (hrest : lexer.cursor.rest = List.replicate count ';')
    (hlimit : lexer.metrics.tokens + count ≤ Limits.tokenCount) :
    ∃ tokens : List Token, lexer.run.items = tokens.map .ok ∧ tokens.length = count := by
  induction count generalizing lexer with
  | zero =>
    refine ⟨[], items_run_of_none ((item_eq_none_iff hfinished).2 ?_), rfl⟩
    rw [hrest]
    simp
  | succ count ih =>
    have hlexes : lexer.Lexes [] ';' (List.replicate count ';') :=
      lexes_of_rest hfinished (by omega) (by simp) (by decide) hrest
    have hsplit : Lexeme.split ';' (List.replicate count ';') =
        (.symbol [';'], List.replicate count ';') := by
      cases count <;> rfl
    obtain ⟨token, hitem⟩ : ∃ token : Token, lexer.next.item = some (.ok token) :=
      ⟨_, by rw [hlexes.item_eq, hsplit]; rfl⟩
    have hnext : lexer.next.lexer.metrics.tokens = lexer.metrics.tokens + 1 := by
      rw [tokens_next, hitem]
      rfl
    have hbehind := hlexes.rest_next
    rw [hsplit] at hbehind
    obtain ⟨tokens, hitems, hlength⟩ := ih hlexes.finished_next hbehind (by omega)
    refine ⟨token :: tokens, ?_, congrArg (· + 1) hlength⟩
    rw [items_run_of_item hitem, hitems, List.map_cons]

/-- A source of as many semicolons as are allowed gives a token for each of them. -/
theorem items_run_ofString_semicolons (preferences : LexicalPreferences) {count : Nat}
    (hlimit : count ≤ Limits.tokenCount) :
    ∃ tokens : List Token, tokens.length = count ∧
      (ofString preferences (String.ofList (List.replicate count ';'))).run.items =
        tokens.map .ok := by
  have hrest : (ofString preferences (String.ofList (List.replicate count ';'))).cursor.rest =
      List.replicate count ';' := String.toList_ofList
  obtain ⟨tokens, hitems, hlength⟩ := items_run_of_semicolons rfl hrest
    (by rwa [show (ofString preferences _).metrics.tokens = 0 from rfl, Nat.zero_add])
  exact ⟨tokens, hlength, hitems⟩

end Lexer

/-- Of two sources with a newline between them, the first of which has no comment without end, the
items are those of the first one, followed by those of the second one as many lines further down as
the first one and the newline take up, without a refusal, exactly if both together have no more
tokens than are allowed, and no error stands behind the last one that is. -/
theorem items_run_joined (preferences : LexicalPreferences) (first second : String)
    (hclosed : ∀ span, (.error (.unterminatedComment span) : Item) ∉
      (Lexer.ofString preferences first).run.items) :
    let items := (Lexer.ofString preferences first).run.items
    let others := (Lexer.ofString preferences second).run.items
    let joined := (Lexer.ofString preferences (first ++ "\n" ++ second)).run.items
    (joined = items ++ others.map (Item.below (first.toList.count '\n' + 1)) ∧
        ∀ count span, (.error (.tooManyTokens count span) : Item) ∉ joined) ↔
      items.countP Except.isOk + others.countP Except.isOk ≤ Limits.tokenCount ∧
        (items.countP Except.isOk + others.countP Except.isOk = Limits.tokenCount →
          (items ++ others).getLast?.any Except.isOk = true) := by
  intro items others joined
  have hjoined : joined = Item.capped 0 (items ++
      others.map (Item.below (first.toList.count '\n' + 1))) :=
    Lexer.items_run_ofString_joined preferences first second hclosed
  rw [← Item.allowed_append_below_iff (first.toList.count '\n' + 1)]
  constructor
  · rintro ⟨-, hrefused⟩
    rw [hjoined] at hrefused
    exact Item.allowed_of_capped hrefused
  · intro hallowed
    rw [hjoined, Item.capped_eq_self hallowed]
    exact ⟨rfl, Lexer.not_refused_of_allowed hallowed⟩

/-- The two halves of an arrow are symbols of their own on different lines. -/
theorem items_run_joined_arrow :
    (Lexer.ofString default ("x -" ++ "\n" ++ "> @")).run.items =
        [.ok ⟨.identifier, "x", ⟨⟨1, 1⟩, ⟨1, 2⟩⟩⟩, .ok ⟨.symbol .minus, "-", ⟨⟨1, 3⟩, ⟨1, 4⟩⟩⟩,
          .ok ⟨.symbol .greaterThan, ">", ⟨⟨2, 1⟩, ⟨2, 2⟩⟩⟩,
          .error (.token ⟨.malformedSymbol, "@", ⟨⟨2, 3⟩, ⟨2, 4⟩⟩⟩)] := by
  have hfirst : (Lexer.ofString default "x -").run.items =
      [.ok ⟨.identifier, "x", ⟨⟨1, 1⟩, ⟨1, 2⟩⟩⟩,
        .ok ⟨.symbol .minus, "-", ⟨⟨1, 3⟩, ⟨1, 4⟩⟩⟩] := by
    decide +kernel
  have hsecond : (Lexer.ofString default "> @").run.items =
      [.ok ⟨.symbol .greaterThan, ">", ⟨⟨1, 1⟩, ⟨1, 2⟩⟩⟩,
        .error (.token ⟨.malformedSymbol, "@", ⟨⟨1, 3⟩, ⟨1, 4⟩⟩⟩)] := by
    decide +kernel
  have hjoined := (items_run_joined default "x -" "> @" (by simp [hfirst])).2
  rw [hfirst, hsecond] at hjoined
  exact (hjoined ⟨by decide, fun hfull => absurd hfull (by decide)⟩).1

/-- Behind as many tokens as are allowed, a character that is no token is refused as a further one,
although there are no more tokens. -/
theorem items_run_joined_full :
    let first := String.ofList (List.replicate Limits.tokenCount ';')
    let items := (Lexer.ofString default first).run.items
    let others := (Lexer.ofString default "@").run.items
    (∀ span, (.error (.unterminatedComment span) : Item) ∉ items) ∧
      (∀ count span, (.error (.tooManyTokens count span) : Item) ∉ items ++ others) ∧
      items.countP Except.isOk + others.countP Except.isOk ≤ Limits.tokenCount ∧
      first.length + "@".length ≤ 4294967293 ∧
      (Lexer.ofString default (first ++ "\n" ++ "@")).run.items =
        items ++ [.error (.tooManyTokens 1000001 ⟨⟨2, 1⟩, ⟨2, 1⟩⟩)] ∧
      items ++ others.map (Item.below (first.toList.count '\n' + 1)) =
        items ++ [.error (.token ⟨.malformedSymbol, "@", ⟨⟨2, 1⟩, ⟨2, 2⟩⟩⟩)] ∧
      (Lexer.ofString default (first ++ "\n" ++ "@")).run.items ≠
        items ++ others.map (Item.below (first.toList.count '\n' + 1)) := by
  intro first items others
  obtain ⟨tokens, hlength, hitems⟩ : ∃ tokens : List Token, tokens.length = Limits.tokenCount ∧
      items = tokens.map .ok :=
    Lexer.items_run_ofString_semicolons default (Nat.le_refl _)
  have hothers : others = [.error (.token ⟨.malformedSymbol, "@", ⟨⟨1, 1⟩, ⟨1, 2⟩⟩⟩)] := by
    decide +kernel
  have hlines : first.toList.count '\n' = 0 := by
    rw [String.toList_ofList, List.count_replicate]
    rfl
  have hclosed : ∀ span, (.error (.unterminatedComment span) : Item) ∉ items := by
    simp [hitems]
  have hsum : items ++ others.map (Item.below (first.toList.count '\n' + 1)) =
      items ++ [.error (.token ⟨.malformedSymbol, "@", ⟨⟨2, 1⟩, ⟨2, 2⟩⟩⟩)] := by
    rw [hlines, hothers]
    rfl
  have hjoined : (Lexer.ofString default (first ++ "\n" ++ "@")).run.items =
      items ++ [.error (.tooManyTokens 1000001 ⟨⟨2, 1⟩, ⟨2, 1⟩⟩)] := by
    rw [Lexer.items_run_ofString_joined default first "@" hclosed]
    show Item.capped 0 (items ++ others.map _) = _
    rw [hsum, hitems, Item.capped_tokens_append _ (by omega), hlength,
      Item.capped_of_full (by omega)]
    rfl
  refine ⟨hclosed, ?_, ?_, ?_, hjoined, hsum, ?_⟩
  · simp [hitems, hothers]
  · have hnone : others.countP Except.isOk = 0 := by
      rw [hothers]
      rfl
    rw [hnone, Nat.add_zero, ← hlength, ← List.length_map, ← hitems]
    exact List.countP_le_length
  · rw [String.length_ofList, List.length_replicate]
    decide
  · rw [hjoined, hsum]
    simp

end VinylSyntax
