import VinylSyntax.Proofs.Extent
import VinylSyntax.Proofs.Singles

/-!
# The forms of lexemes

What a lexeme is made of, and what it stops in front of, can be told without the scan that cuts it
off: `Lexeme.Form` has one constructor for each way in which lexemes begin, and every lexeme has its
form (`Lexeme.split_form`). Every item of a run is made of such a lexeme, or refuses a further token
in front of one (`Lexer.item_cases`).
-/

namespace VinylSyntax

/-! ## Block comments -/

/-- A text ends with the mark that closes a comment, and that mark has no character in common with
the one that opens it. -/
structure Closes (text : List Char) : Prop where
  mark : ['*', '/'] <:+ text
  apart : 4 ≤ text.length

/-- The shortest beginning of a text that closes. -/
structure ClosesFirst (comment text : List Char) : Prop where
  beginning : comment <+: text
  closes : Closes comment
  shortest : ∀ other, other <+: text → Closes other → comment.length ≤ other.length

/-- Nothing within what the scan of a block comment takes closes it. -/
theorem not_closes_of_splitWhere {body inner rest text : List Char}
    (h : splitWhere endsBlock [] body = (inner, rest)) (htext : text <+: '/' :: '*' :: inner) :
    ¬ Closes text := by
  rintro ⟨⟨front, rfl⟩, hlength⟩
  obtain ⟨behind, hbehind⟩ := htext
  rw [List.length_append] at hlength
  -- In front of the closing mark stands at least the opening one.
  obtain ⟨before, hinner⟩ : ∃ before, inner = (before ++ ['*']) ++ '/' :: behind := by
    match front, hlength, hbehind with
    | _ :: _ :: before, _, hbehind =>
      refine ⟨before, ?_⟩
      simp only [List.cons_append, List.append_assoc, List.cons.injEq] at hbehind
      rw [← hbehind.2.2]
      simp
    | [_], hlength, _ => simp at hlength
    | [], hlength, _ => simp at hlength
  rw [hinner] at h
  have hstop := not_stop_of_splitWhere h (Nat.zero_le _)
  rw [List.getLast?_concat] at hstop
  cases hstop

namespace Lexeme

variable {first : Char} {rest text : List Char}

/-- A block comment is the shortest beginning of the text that closes. If there is none, all of the
text is a comment without end. -/
theorem splitBlock_cases (body : List Char) :
    (∃ comment rest, splitBlock body = (.comment comment, rest) ∧
      '/' :: '*' :: body = comment ++ rest ∧ ClosesFirst comment ('/' :: '*' :: body)) ∨
    (splitBlock body = (.openComment ('/' :: '*' :: body), []) ∧
      ∀ other, other <+: '/' :: '*' :: body → ¬ Closes other) := by
  have happend := splitWhere_append endsBlock [] body
  obtain ⟨inner, rest, hsplit⟩ : ∃ inner rest, splitWhere endsBlock [] body = (inner, rest) :=
    ⟨_, _, rfl⟩
  rw [hsplit] at happend
  have hbody : body = inner ++ rest := happend.symm
  rw [splitBlock, hsplit]
  cases rest with
  | nil =>
    rw [List.append_nil] at hbody
    exact .inr ⟨by rw [hbody], fun other hother => not_closes_of_splitWhere hsplit (hbody ▸ hother)⟩
  | cons last rest =>
    have hstop := stop_of_splitWhere hsplit
    rw [List.head?_reverse] at hstop
    obtain ⟨hstar, rfl⟩ : inner.getLast? = some '*' ∧ last = '/' := by
      simpa [endsBlock, isCommentTerminator] using hstop
    obtain ⟨before, rfl⟩ := List.getLast?_eq_some_iff.1 hstar
    refine .inl ⟨_, rest, rfl, by simp [hbody], ?_⟩
    refine ⟨⟨rest, by simp [hbody]⟩, ⟨⟨'/' :: '*' :: before, by simp⟩, by simp⟩, ?_⟩
    intro other hother hcloses
    by_contra hlt
    refine not_closes_of_splitWhere hsplit ?_ hcloses
    refine List.prefix_of_prefix_length_le hother ⟨'/' :: rest, by simp [hbody]⟩ ?_
    simp only [List.length_cons, List.length_append, List.length_nil] at hlt ⊢
    omega

/-- A line comment goes on to the first newline. -/
theorem splitLine_eq (body : List Char) : splitLine body =
    (.comment ('/' :: '/' :: body.takeWhile (· != '\n')), body.dropWhile (· != '\n')) := by
  have hscan := splitWhere_eq_takeWhile (· == '\n') [] body
  rw [splitLine, show splitWhere endsLine [] body = _ from hscan]
  rfl

/-! ## Forms -/

/-- What a lexeme is made of, and what is left behind it. -/
inductive Form : Lexeme → List Char → Prop where
  | number {text rest : List Char} (hdigit : text.head?.any isDigit = true) :
      Form (.number text) rest
  | word {first : Char} {inner rest : List Char} (hbegins : beginsWord first = true)
      (hinner : ∀ char ∈ inner, isSeparator char = false)
      (hrest : rest.head?.all isSeparator = true) : Form (.word (first :: inner)) rest
  | line {inner rest : List Char} (hinner : '\n' ∉ inner)
      (hrest : rest.head?.all (· == '\n') = true) : Form (.comment ('/' :: '/' :: inner)) rest
  | block {comment rest : List Char} (hopens : ['/', '*'] <+: comment)
      (hfirst : ClosesFirst comment (comment ++ rest)) : Form (.comment comment) rest
  | openBlock {text : List Char} (hopens : ['/', '*'] <+: text)
      (hnone : ∀ other, other <+: text → ¬ Closes other) : Form (.openComment text) []
  | pair {first second : Char} {rest : List Char} {symbol : Symbol}
      (hpair : Symbol.ofPair? first second = some symbol) : Form (.symbol [first, second]) rest
  | single {first : Char} {rest : List Char} (hdigit : isDigit first = false)
      (hword : beginsWord first = false)
      (hpair : ∀ second, rest.head? = some second → Symbol.ofPair? first second = none) :
      Form (.symbol [first]) rest

/-- What is cut off as a symbol is a pair that spells one, or a single character. -/
theorem splitSymbol_form (hdigit : isDigit first = false) (hword : beginsWord first = false) :
    Form (splitSymbol first rest).1 (splitSymbol first rest).2 := by
  unfold splitSymbol
  split
  · next second tail =>
    cases hpair : Symbol.ofPair? first second with
    | some symbol => exact .pair hpair
    | none => exact .single hdigit hword fun _ hsecond => Option.some.inj hsecond ▸ hpair
  · exact .single hdigit hword fun _ hsecond => (nomatch hsecond)

/-- What is cut off as a line comment goes on to the first newline. -/
theorem splitLine_form (body : List Char) : Form (splitLine body).1 (splitLine body).2 := by
  rw [splitLine_eq]
  refine .line (fun hmem => ?_) ?_
  · have hinner := List.all_eq_true.1 List.all_takeWhile _ hmem
    simp at hinner
  · rw [Option.all_eq_true]
    intro char hchar
    have hhead := List.head?_dropWhile_not (· != '\n') body
    rw [hchar] at hhead
    simpa using hhead

/-- What is cut off as a block comment goes on to what closes it first, if anything does. -/
theorem splitBlock_form (body : List Char) : Form (splitBlock body).1 (splitBlock body).2 := by
  have hopens : ['/', '*'] <+: '/' :: '*' :: body := ⟨body, rfl⟩
  rcases splitBlock_cases body with ⟨comment, rest, hsplit, hcut, hfirst⟩ | ⟨hsplit, hnone⟩
  · rw [hcut] at hfirst hopens
    rw [hsplit]
    exact .block (List.prefix_of_prefix_length_le hopens (List.prefix_append _ _)
      (Nat.le_trans (by decide) hfirst.closes.apart)) hfirst
  · rw [hsplit]
    exact .openBlock hopens hnone

/-- A lexeme begins with the first character of the text. -/
theorem head?_text (first : Char) (tail : List Char) :
    (split first tail).1.text.head? = some first := by
  obtain ⟨char, inner, htext⟩ := List.exists_cons_of_ne_nil (text_ne_nil first tail)
  have hcut := text_append_rest first tail
  rw [htext] at hcut ⊢
  exact congrArg some (List.cons.inj hcut).1

/-- What is cut off has its form. -/
theorem split_form (first : Char) (tail : List Char) :
    Form (split first tail).1 (split first tail).2 := by
  by_cases hdigit : isDigit first = true
  · have hhead := head?_text first tail
    rw [split_of_isDigit hdigit] at hhead ⊢
    refine .number ?_
    simp only [text] at hhead
    rwa [hhead]
  · rw [Bool.not_eq_true] at hdigit
    by_cases hword : beginsWord first = true
    · rw [split_eq_takeWhile hword]
      refine .word hword (fun char hchar => ?_) ?_
      · simpa using List.all_eq_true.1 List.all_takeWhile char hchar
      · rw [Option.all_eq_true]
        intro char hchar
        have hhead := List.head?_dropWhile_not (!isSeparator ·) tail
        rw [hchar] at hhead
        simpa using hhead
    · unfold split
      rw [if_neg (by simp [hdigit]), if_neg hword]
      rw [Bool.not_eq_true] at hword
      split
      · exact splitLine_form _
      · exact splitBlock_form _
      · exact splitSymbol_form hdigit hword

end Lexeme

/-! ## The lexemes of a run -/

namespace Lexer

/-- Every item of a run is about a place of the text where no white space stands: it refuses a
further token there, or is made of the lexeme that stands there. -/
theorem item_cases {lexer : Lexer} {item : Item} (h : item ∈ lexer.run.items) :
    ∃ front first tail, lexer.cursor.rest = front ++ first :: tail ∧ isBlank first = false ∧
      ((∃ count, Limits.tokenCount < count ∧ item =
          .error (.tooManyTokens count (.point (lexer.location.advanceOver front)))) ∨
        item = (Lexeme.split first tail).1.token ⟨lexer.location.advanceOver front,
          lexer.location.advanceOver (front ++ (Lexeme.split first tail).1.text)⟩) := by
  obtain ⟨count, hcount⟩ := List.mem_iff_getElem?.1 h
  rw [lexer.getElem?_items_run count] at hcount
  obtain ⟨passed, hrest, hcursor⟩ := lexer.exists_passes_after count
  have hlocation : (lexer.after count).location = lexer.location.advanceOver passed := by
    rw [location, hcursor]
    rfl
  by_cases hends : (lexer.after count).next.Ends
  · have hopen : (lexer.after count).finished = false := by
      rw [Bool.eq_false_iff]
      intro hfinished
      rw [next_of_finished hfinished] at hcount
      cases hcount
    obtain hnone | ⟨number, span, hrefused⟩ := hends
    · rw [hnone] at hcount
      cases hcount
    · obtain ⟨hlimit, gap, first, tail, htext, -, hvisible, rfl, rfl⟩ :=
        (item_eq_tooManyTokens_iff hopen).1 hrefused
      refine ⟨passed ++ gap, first, tail, by rw [hrest, htext, List.append_assoc], hvisible, ?_⟩
      refine .inl ⟨_, Nat.lt_succ_of_le hlimit, ?_⟩
      rw [Location.advanceOver_append, ← hlocation]
      exact Option.some.inj (hcount.symm.trans hrefused)
  · obtain ⟨first, tail, hlexes, -⟩ := lexes_of_not_ends hends
    generalize gapOf (lexer.after count).cursor.rest = gap at hlexes
    refine ⟨passed ++ gap, first, tail, ?_, hlexes.visible, .inr ?_⟩
    · rw [hrest, hlexes.rest_eq, List.append_assoc]
    · rw [hlexes.item_eq, hlocation, ← Location.advanceOver_append,
        ← Location.advanceOver_append, ← List.append_assoc] at hcount
      exact (Option.some.inj hcount).symm

end Lexer

end VinylSyntax
