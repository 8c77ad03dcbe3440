import VinylSyntax.Proofs.Coverage

/-!
# What stands behind a lexeme

Where a lexeme ends depends on up to two characters behind it. `Border rest other` says that `other`
can take the place of `rest` there: `Lexeme.split_replace` says that the same lexeme is cut off in
front of it, and `Lexer.Lexes.replace` that every lexer cuts it off, wherever it stands then.
-/

namespace VinylSyntax

/-- A scan stops in front of a text, given the character scanned last. -/
def StopsBefore (stop : Option Char → Char → Option Char → Bool) (previous : Option Char) :
    List Char → Prop
  | [] => True
  | char :: rest => stop previous char rest.head? = true

/-- A split that takes nothing has stopped at once. -/
theorem stopsBefore_of_splitWhere {stop : Option Char → Char → Option Char → Bool}
    {scanned text : List Char} (h : (splitWhere stop scanned text).2 = text) :
    StopsBefore stop scanned.head? text := by
  cases text with
  | nil => trivial
  | cons char rest =>
    by_cases hstop : stop scanned.head? char rest.head? = true
    · exact hstop
    · rw [splitWhere, if_neg hstop] at h
      have hle := length_splitWhere_le stop (char :: scanned) rest
      rw [h, List.length_cons] at hle
      omega

/-- A scan that stops in front of a text takes nothing of it. -/
theorem splitWhere_of_stopsBefore {stop : Option Char → Char → Option Char → Bool}
    {scanned text : List Char} (h : StopsBefore stop scanned.head? text) :
    splitWhere stop scanned text = (scanned.reverse, text) := by
  cases text with
  | nil => rfl
  | cons char rest =>
    rw [splitWhere]
    exact if_pos h

/-- What is split off in front of a text is split off in front of another one as well, if the scan
sees no difference from the last character that it takes and stops there too. -/
theorem splitWhere_replace {stop : Option Char → Char → Option Char → Bool}
    {scanned inner rest other : List Char}
    (h : (splitWhere stop scanned (inner ++ rest)).2 = rest)
    (hstop : ∀ previous, StopsBefore stop previous rest → StopsBefore stop previous other)
    (hlast : ∀ previous char,
      stop previous char rest.head? = false → stop previous char other.head? = false) :
    splitWhere stop scanned (inner ++ other) = (scanned.reverse ++ inner, other) := by
  induction inner generalizing scanned with
  | nil =>
    rw [List.append_nil]
    exact splitWhere_of_stopsBefore (hstop _ (stopsBefore_of_splitWhere h))
  | cons char inner ih =>
    rw [List.cons_append, splitWhere] at h ⊢
    by_cases htest : stop scanned.head? char (inner ++ rest).head? = true
    · -- The scan would leave the character in front of `rest`.
      rw [if_pos htest] at h
      have hlength := congrArg List.length h
      simp only [List.length_cons, List.length_append] at hlength
      omega
    · have hother : ¬ stop scanned.head? char (inner ++ other).head? = true := by
        cases inner with
        | nil => simpa using hlast _ _ (by simpa using htest)
        | cons next inner => exact htest
      rw [if_neg htest] at h
      rw [if_neg hother, ih h]
      simp

/-! ## Borders -/

/-- One text can stand for another one behind a lexeme: it is empty, or begins with white space, or
with the same character in front of the same character, or of a blank in the place of a slash. -/
inductive Border (rest : List Char) : List Char → Prop where
  | empty : Border rest []
  | blank {char : Char} {tail : List Char} (hblank : isBlank char = true) :
      Border rest (char :: tail)
  | same {char : Char} {old new : List Char} (hrest : rest = char :: old)
      (hnext : new.head? = old.head? ∨ old.head? = some '/' ∧ new.head? = some ' ') :
      Border rest (char :: new)

/-- White space is a separator. -/
theorem isSeparator_of_isBlank {char : Char} (h : isBlank char = true) :
    isSeparator char = true := by
  simp [isSeparator, h]

/-- White space is no sign, so it ends a number wherever it stands. -/
theorem endsNumber_of_isBlank {char : Char} (h : isBlank char = true)
    (previous next : Option Char) : endsNumber previous char next = true := by
  have hplus : char ≠ '+' := by rintro rfl; cases h
  have hminus : char ≠ '-' := by rintro rfl; cases h
  have hpoint : char ≠ '.' := by rintro rfl; cases h
  have hseparator : isNumberSeparator previous char = true := by
    unfold isNumberSeparator
    split <;> simp_all [isSeparator_of_isBlank]
  simp [endsNumber, isDecimalPoint, hseparator, hpoint]

/-- No symbol has white space as its second character. -/
theorem ofPair?_of_isBlank {char : Char} (h : isBlank char = true) (first : Char) :
    Symbol.ofPair? first char = none := by
  unfold Symbol.ofPair?
  split
  · cases h
  · cases h
  · rfl

/-- A point belongs to a number in front of a slash as well as in front of a blank. -/
theorem isDecimalPointContinuation_congr {old new : Option Char}
    (h : new = old ∨ old = some '/' ∧ new = some ' ') :
    isDecimalPointContinuation new = isDecimalPointContinuation old := by
  rcases h with rfl | ⟨rfl, rfl⟩
  · rfl
  · decide

namespace Border

variable {rest other : List Char} (hborder : Border rest other)

include hborder

/-- What belongs to a number in front of a text does so in front of the other one. -/
theorem endsNumber_head {previous : Option Char} {char : Char}
    (h : endsNumber previous char rest.head? = false) :
    endsNumber previous char other.head? = false := by
  cases hborder with
  | empty =>
    have hend : isDecimalPointContinuation none = true := rfl
    cases hseparator : isNumberSeparator previous char <;>
      simp_all [endsNumber, isDecimalPoint]
  | @blank blank tail hblank =>
    have hend : isDecimalPointContinuation (some blank) = true := by
      simp [isDecimalPointContinuation, isSeparator_of_isBlank hblank]
    cases hseparator : isNumberSeparator previous char <;>
      simp_all [endsNumber, isDecimalPoint]
  | same hrest _ =>
    rw [hrest] at h
    exact h

/-- Where a number ends in front of a text, it ends in front of what stands for it. -/
theorem stopsBefore_endsNumber {previous : Option Char} (h : StopsBefore endsNumber previous rest) :
    StopsBefore endsNumber previous other := by
  cases hborder with
  | empty => trivial
  | blank hblank => exact endsNumber_of_isBlank hblank previous _
  | @same char old new hrest hnext =>
    subst hrest
    have hcontinuation := isDecimalPointContinuation_congr hnext
    show endsNumber previous char new.head? = true
    rw [endsNumber, isDecimalPoint, hcontinuation]
    exact h

/-- Where a word ends in front of a text, it ends in front of what stands for it. -/
theorem stopsBefore_endsWord {previous : Option Char} (h : StopsBefore endsWord previous rest) :
    StopsBefore endsWord previous other := by
  cases hborder with
  | empty => trivial
  | blank hblank => exact isSeparator_of_isBlank hblank
  | same hrest _ =>
    subst hrest
    exact h

omit hborder in
/-- A character other than white space that stands behind a beginning also stood there before. -/
theorem head_of_append (hborder : Border rest other) {inner tail : List Char} {char : Char}
    (h : inner ++ other = char :: tail) (hvisible : isBlank char = false) :
    ∃ old, inner ++ rest = char :: old := by
  cases inner with
  | cons next inner =>
    obtain ⟨rfl, -⟩ := List.cons.inj h
    exact ⟨_, rfl⟩
  | nil =>
    rw [List.nil_append] at h ⊢
    subst h
    cases hborder with
    | blank hblank => simp [hblank] at hvisible
    | same hrest _ => exact ⟨_, hrest⟩

end Border

/-! ## Lexemes in front of another text -/

namespace Lexeme

variable {first : Char} {inner rest other : List Char}

/-- What is cut off as a line comment is one, and begins the text behind its mark. -/
theorem splitLine_inv {body : List Char} {lexeme : Lexeme} (h : splitLine body = (lexeme, rest)) :
    ∃ inner, lexeme = .comment ('/' :: '/' :: inner) ∧ body = inner ++ rest := by
  obtain ⟨rfl, rfl⟩ := Prod.mk.inj h
  exact ⟨_, rfl, by simpa using (splitWhere_append endsLine [] body).symm⟩

/-- What is cut off as a closed block comment is one, and begins the text behind its mark. -/
theorem splitBlock_inv {body : List Char} {lexeme : Lexeme} (h : splitBlock body = (lexeme, rest))
    (hclosed : ∀ text, lexeme ≠ .openComment text) :
    ∃ inner, lexeme = .comment ('/' :: '*' :: inner) ∧ body = inner ++ rest := by
  have happend := splitBlock_append body
  rw [h] at happend
  unfold splitBlock at h
  split at h
  · obtain ⟨rfl, rfl⟩ := Prod.mk.inj h
    exact ⟨_, rfl, by simpa [text] using happend.symm⟩
  · exact absurd (Prod.mk.inj h).1.symm (hclosed _)

/-- What is cut off as a symbol is one. -/
theorem splitSymbol_inv {tail : List Char} {lexeme : Lexeme}
    (h : splitSymbol first tail = (lexeme, rest)) : ∃ text, lexeme = .symbol text := by
  unfold splitSymbol at h
  split at h
  · split at h <;> exact ⟨_, (Prod.mk.inj h).1.symm⟩
  · exact ⟨_, (Prod.mk.inj h).1.symm⟩

/-- A line comment that is cut off goes on up to a newline or the end. -/
theorem splitLine_replace (h : (splitLine (inner ++ rest)).2 = rest)
    (hother : other = [] ∨ other.head? = some '\n') :
    splitLine (inner ++ other) = (.comment ('/' :: '/' :: inner), other) := by
  have hstop : ∀ previous, StopsBefore endsLine previous rest →
      StopsBefore endsLine previous other := by
    intro previous _
    cases other with
    | nil => trivial
    | cons char tail =>
      obtain rfl : char = '\n' := by simpa using hother
      rfl
  have hsplit := splitWhere_replace h hstop fun _ _ hchar => hchar
  simp [splitLine, hsplit]

/-- A block comment that is cut off is the same in front of any text. -/
theorem splitBlock_replace {text : List Char} (other : List Char)
    (h : splitBlock (inner ++ rest) = (.comment text, rest)) (htext : text = '/' :: '*' :: inner) :
    splitBlock (inner ++ other) = (.comment text, other) := by
  obtain ⟨body, last, hsplit, hinner⟩ : ∃ body last,
      splitWhere endsBlock [] (inner ++ rest) = (body, last :: rest) ∧ inner = body ++ [last] := by
    unfold splitBlock at h
    split at h
    · next body last tail hsplit =>
      obtain ⟨hcomment, rfl⟩ := Prod.mk.inj h
      have hbody := Lexeme.comment.inj hcomment
      rw [htext] at hbody
      exact ⟨body, last, hsplit, by simpa using hbody.symm⟩
    · cases h
  subst hinner
  rw [List.append_assoc, List.singleton_append] at hsplit ⊢
  -- The last character of the comment is where the scan stops, before it sees what is behind.
  have hreplace : splitWhere endsBlock [] (body ++ last :: other) = (body, last :: other) :=
    @splitWhere_replace endsBlock [] body (last :: rest) (last :: other) (by rw [hsplit])
      (fun _ hstop => hstop) (fun _ _ hchar => hchar)
  rw [splitBlock, hreplace, htext]

/-- A symbol is the same in front of every text that can stand for what is behind it. -/
theorem splitSymbol_replace (hborder : Border rest other)
    (h : (splitSymbol first (inner ++ rest)).2 = rest) :
    splitSymbol first (inner ++ other) = (.symbol (first :: inner), other) := by
  cases inner with
  | nil =>
    -- The symbol has one character, which makes no longer one with the next.
    cases hborder with
    | empty => rfl
    | blank hblank => simp [splitSymbol, ofPair?_of_isBlank hblank]
    | @same char old new hrest _ =>
      subst hrest
      cases hpair : (Symbol.ofPair? first char).isSome with
      | true => simp [splitSymbol, hpair] at h
      | false => simp [splitSymbol, hpair]
  | cons second inner =>
    cases hpair : (Symbol.ofPair? first second).isSome with
    | true =>
      obtain rfl : inner = [] := by simpa [splitSymbol, hpair] using h
      simp [splitSymbol, hpair]
    | false =>
      have hlength := congrArg List.length h
      simp [splitSymbol, hpair] at hlength
      omega

/-- A lexeme that has an end is the same in front of every text that can stand for what is behind
it. Behind a line comment, this is a newline or the end only. -/
theorem split_replace {lexeme : Lexeme} (h : split first (inner ++ rest) = (lexeme, rest))
    (htext : lexeme.text = first :: inner) (hclosed : ∀ text, lexeme ≠ .openComment text)
    (hborder : Border rest other)
    (hline : ∀ text, lexeme = .comment text → ['/', '/'] <+: text →
      other = [] ∨ other.head? = some '\n') :
    split first (inner ++ other) = (lexeme, other) := by
  by_cases hdigit : isDigit first = true
  · rw [split_of_isDigit hdigit] at h
    obtain ⟨rfl, hrest⟩ := Prod.mk.inj h
    have hnumber := splitWhere_replace hrest (fun _ => hborder.stopsBefore_endsNumber)
      fun _ _ => hborder.endsNumber_head
    rw [split_of_isDigit hdigit, hnumber]
    exact congrArg (fun text => (Lexeme.number text, other)) htext.symm
  · by_cases hword : beginsWord first = true
    · rw [split_of_beginsWord hword] at h
      obtain ⟨rfl, hrest⟩ := Prod.mk.inj h
      have hwords := splitWhere_replace hrest (fun _ => hborder.stopsBefore_endsWord)
        fun _ _ hchar => hchar
      rw [split_of_beginsWord hword, hwords]
      exact congrArg (fun text => (Lexeme.word text, other)) htext.symm
    · unfold split at h ⊢
      rw [if_neg hdigit, if_neg hword] at h ⊢
      split at h
      · next body hbody =>
        obtain ⟨line, rfl, rfl⟩ := splitLine_inv h
        obtain ⟨-, rfl⟩ := List.cons.inj htext
        exact splitLine_replace (Prod.mk.inj h).2 (hline _ rfl (by simp))
      · next body hbody =>
        obtain ⟨block, rfl, rfl⟩ := splitBlock_inv h hclosed
        obtain ⟨-, rfl⟩ := List.cons.inj htext
        exact splitBlock_replace other h rfl
      · next first _ _ hslash hasterisk =>
        obtain ⟨text, hlexeme⟩ := splitSymbol_inv h
        have hsymbol : lexeme = .symbol (first :: inner) := by
          rw [← htext, hlexeme]
          rfl
        -- What is behind the symbol still does not make it a comment.
        have hbegins : ∀ char body, first = '/' → inner ++ other = char :: body →
            char ≠ '/' ∧ char ≠ '*' := by
          intro char body hfirst hbody
          refine ⟨?_, ?_⟩
          · rintro rfl
            obtain ⟨old, hold⟩ := hborder.head_of_append hbody (by decide)
            exact hslash old hfirst hold
          · rintro rfl
            obtain ⟨old, hold⟩ := hborder.head_of_append hbody (by decide)
            exact hasterisk old hfirst hold
        rw [hsymbol, ← splitSymbol_replace hborder (Prod.mk.inj h).2]
        split
        · next hbody => exact absurd rfl (hbegins _ _ rfl hbody).1
        · next hbody => exact absurd rfl (hbegins _ _ rfl hbody).2
        · rfl

/-- The kind of the token that a lexeme makes, if it makes one. -/
def kind? (lexeme : Lexeme) : Option TokenKind :=
  let spelling := String.ofList lexeme.text
  match lexeme with
  | .number _ =>
    match FloatLiteral.ofString? spelling with
    | some literal => some (.float literal)
    | none => (IntegerLiteral.ofString? spelling).map .integer
  | .word text =>
    match Keyword.ofString? spelling with
    | some keyword => some (.keyword keyword)
    | none =>
      if Limits.identifierLength < text.length then none
      else if Token.hasIdentifierForm text then some .identifier else none
  | .comment text => if Limits.commentLength < text.length then none else some .comment
  | .openComment _ => none
  | .symbol _ => (Symbol.ofString? spelling).map .symbol

section mapError

variable {α ε δ : Type} (change : ε → δ)

/-- Changing errors leaves a value as it is. -/
@[simp] theorem mapError_ok (value : α) :
    (Except.ok value : Except ε α).mapError change = .ok value := rfl

/-- An error is changed as the map says. -/
@[simp] theorem mapError_error (error : ε) :
    (Except.error error : Except ε α).mapError change = .error (change error) := rfl

end mapError

/-- The token of a lexeme has the kind and the text of the lexeme, and the span that it is given. -/
theorem token_eq_ok_iff {lexeme : Lexeme} {span : Span} {token : Token} :
    lexeme.token span = .ok token ↔
      ∃ kind, lexeme.kind? = some kind ∧ token = ⟨kind, String.ofList lexeme.text, span⟩ := by
  cases lexeme with
  | number text =>
    simp only [Lexeme.token, kind?, Lexeme.text, Token.float, Token.integer]
    cases FloatLiteral.ofString? (String.ofList text) with
    | some literal => simp [eq_comm]
    | none =>
      cases IntegerLiteral.ofString? (String.ofList text) <;> simp [eq_comm]
  | word text =>
    simp only [Lexeme.token, kind?, Lexeme.text, Token.keyword, Token.identifier,
      String.toList_ofList]
    cases Keyword.ofString? (String.ofList text) with
    | some keyword => simp [eq_comm]
    | none =>
      by_cases hlong : Limits.identifierLength < text.length
      · simp [hlong]
      · cases Token.hasIdentifierForm text <;> simp [hlong, eq_comm]
  | comment text =>
    by_cases hlong : Limits.commentLength < text.length
    · simp [Lexeme.token, kind?, hlong]
    · simp [Lexeme.token, kind?, hlong, Token.comment, Lexeme.text, eq_comm]
  | openComment text => simp [Lexeme.token, kind?]
  | symbol text =>
    simp only [Lexeme.token, kind?, Lexeme.text, Token.symbol]
    cases Symbol.ofString? (String.ofList text) <;> simp [eq_comm]

/-- The kind and the text of a token do not depend on where its lexeme stands. -/
theorem token_of_token {lexeme : Lexeme} {span : Span} {token : Token} (span' : Span)
    (h : lexeme.token span = .ok token) :
    lexeme.token span' = .ok { token with span := span' } := by
  obtain ⟨kind, hkind, rfl⟩ := token_eq_ok_iff.1 h
  exact token_eq_ok_iff.2 ⟨kind, hkind, rfl⟩

/-- A token is a comment if and only if its lexeme is one. -/
theorem isComment_iff {lexeme : Lexeme} {span : Span} {token : Token}
    (h : lexeme.token span = .ok token) :
    token.isComment = true ↔ ∃ text, lexeme = .comment text := by
  obtain ⟨kind, hkind, rfl⟩ := token_eq_ok_iff.1 h
  cases lexeme with
  | comment text =>
    by_cases hlong : Limits.commentLength < text.length
    · simp [kind?, hlong] at hkind
    · obtain rfl : TokenKind.comment = kind := by simpa [kind?, hlong] using hkind
      simp [Token.isComment]
  | openComment text => cases hkind
  | number text =>
    have hother : kind ≠ .comment := by
      rintro rfl
      unfold kind? at hkind
      simp only at hkind
      split at hkind <;> simp at hkind
    simp [Token.isComment, hother]
  | word text =>
    have hother : kind ≠ .comment := by
      rintro rfl
      unfold kind? at hkind
      simp only at hkind
      repeat' split at hkind
      all_goals simp at hkind
    simp [Token.isComment, hother]
  | symbol text =>
    have hother : kind ≠ .comment := by
      rintro rfl
      simp [kind?] at hkind
    simp [Token.isComment, hother]

/-- A lexeme that makes a token has an end. -/
theorem closed_of_token {lexeme : Lexeme} {span : Span} {token : Token}
    (h : lexeme.token span = .ok token) (text : List Char) : lexeme ≠ .openComment text := by
  rintro rfl
  cases h

end Lexeme

/-! ## Steps in front of another text -/

namespace Lexer

/-- White space in front of a character that is none can be told from what follows. -/
theorem gap_unique {gap gap' tail tail' : List Char} {first first' : Char}
    (hgap : ∀ char ∈ gap, isBlank char = true) (hgap' : ∀ char ∈ gap', isBlank char = true)
    (hfirst : isBlank first = false) (hfirst' : isBlank first' = false)
    (h : gap ++ first :: tail = gap' ++ first' :: tail') :
    gap = gap' ∧ first = first' ∧ tail = tail' := by
  induction gap generalizing gap' with
  | nil =>
    cases gap' with
    | nil => exact ⟨rfl, List.cons.inj h⟩
    | cons char gap' =>
      obtain ⟨rfl, -⟩ := List.cons.inj h
      exact absurd (hgap' first (by simp)) (by simp [hfirst])
  | cons char gap ih =>
    cases gap' with
    | nil =>
      obtain ⟨rfl, -⟩ := List.cons.inj h
      exact absurd (hgap char (by simp)) (by simp [hfirst'])
    | cons char' gap' =>
      obtain ⟨rfl, htail⟩ := List.cons.inj h
      obtain ⟨rfl, hrest⟩ := ih (fun char hchar => hgap char (by simp [hchar]))
        (fun char hchar => hgap' char (by simp [hchar])) htail
      exact ⟨rfl, hrest⟩

/-- A lexer that has neither finished nor reached the token limit cuts off the white space and the
lexeme in front of it. -/
theorem lexes_of_rest {lexer : Lexer} {gap tail : List Char} {first : Char}
    (hfinished : lexer.finished = false) (hlimit : lexer.metrics.tokens < Limits.tokenCount)
    (hgap : ∀ char ∈ gap, isBlank char = true) (hvisible : isBlank first = false)
    (hrest : lexer.cursor.rest = gap ++ first :: tail) : lexer.Lexes gap first tail := by
  rcases next_cases hfinished with ⟨hblank, -, -⟩ | ⟨hfull, -⟩ | ⟨gap', first', tail', hlexes⟩
  · exact absurd (hblank first (by simp [hrest])) (by simp [hvisible])
  · omega
  · have heq := hrest.symm.trans hlexes.rest_eq
    obtain ⟨rfl, rfl, rfl⟩ := gap_unique hgap hlexes.blank hvisible hlexes.visible heq
    exact hlexes

/-- A lexeme that has an end is cut off by every lexer that has it in front of it, behind any white
space, if what is behind it can stand for what was behind it before. -/
theorem Lexes.replace {lexer other : Lexer} {gap gap' tail rest : List Char} {first : Char}
    (h : lexer.Lexes gap first tail)
    (hclosed : ∀ text, (Lexeme.split first tail).1 ≠ .openComment text)
    (hfinished : other.finished = false) (hlimit : other.metrics.tokens < Limits.tokenCount)
    (hgap : ∀ char ∈ gap', isBlank char = true)
    (hrest : other.cursor.rest = gap' ++ ((Lexeme.split first tail).1.text ++ rest))
    (hborder : Border (Lexeme.split first tail).2 rest)
    (hline : ∀ text, (Lexeme.split first tail).1 = .comment text → ['/', '/'] <+: text →
      rest = [] ∨ rest.head? = some '\n') :
    ∃ tail', other.Lexes gap' first tail' ∧
      Lexeme.split first tail' = ((Lexeme.split first tail).1, rest) := by
  have hcut := Lexeme.text_append_rest first tail
  obtain ⟨char, inner, htext⟩ := List.exists_cons_of_ne_nil (Lexeme.text_ne_nil first tail)
  rw [htext] at hcut
  obtain ⟨rfl, htail⟩ := List.cons.inj hcut
  rw [htext] at hrest
  refine ⟨inner ++ rest, lexes_of_rest hfinished hlimit hgap h.visible hrest, ?_⟩
  exact Lexeme.split_replace (congrArg (Lexeme.split char) htail) htext hclosed hborder hline

end Lexer

end VinylSyntax
