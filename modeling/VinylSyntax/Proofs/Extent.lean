import VinylSyntax.Proofs.Stepping

/-!
# Where numbers end

The scan that cuts off a number carries the character before along. Its outcome can be told from
the text alone: a number ends at the first separator that is neither the sign of an exponent nor the
point of a decimal number, `NumberEndsAt`, which looks at one character on either side.
`number_extent` says so of every number that a lexer comes to.
-/

namespace VinylSyntax

/-! ## Scans, place by place -/

/-- A scan does not stop at a character that it takes. -/
theorem not_stop_of_splitWhere {stop : Option Char → Char → Option Char → Bool}
    {scanned text before behind rest : List Char} {char : Char}
    (h : splitWhere stop scanned text = (before ++ char :: behind, rest))
    (hlength : scanned.length ≤ before.length) :
    stop before.getLast? char (behind ++ rest).head? = false := by
  induction text generalizing scanned with
  | nil =>
    have htaken := congrArg (fun split => split.1.length) h
    simp only [splitWhere, List.length_reverse, List.length_append, List.length_cons] at htaken
    omega
  | cons next text ih =>
    rw [splitWhere] at h
    split at h
    · have htaken := congrArg (fun split => split.1.length) h
      simp only [List.length_reverse, List.length_append, List.length_cons] at htaken
      omega
    · next hstop =>
      by_cases hnext : before.length = scanned.length
      · -- The character is the one that the scan has in front of it.
        have happend := splitWhere_append stop (next :: scanned) text
        rw [h] at happend
        have hsplit : before ++ char :: (behind ++ rest) = scanned.reverse ++ next :: text := by
          simpa using happend
        obtain ⟨rfl, hrest⟩ := List.append_inj hsplit (by simpa using hnext)
        obtain ⟨rfl, rfl⟩ := List.cons.inj hrest
        rw [List.getLast?_reverse]
        exact Bool.not_eq_true _ ▸ hstop
      · exact ih h (by simp only [List.length_cons]; omega)

/-! ## The ends of numbers -/

/-- A sign stands at a place, directly behind the mark of an exponent. -/
structure SignAt (text : List Char) (place : Nat) : Prop where
  sign : text[place]? = some '+' ∨ text[place]? = some '-'
  exponent : ∃ before, place = before + 1 ∧ (text[before]? = some 'e' ∨ text[before]? = some 'E')

/-- A point stands at a place, directly behind a digit and in front of a digit, the mark of an
exponent, a separator or the end. -/
structure PointAt (text : List Char) (place : Nat) : Prop where
  point : text[place]? = some '.'
  digit : ∃ before char, place = before + 1 ∧ text[before]? = some char ∧ isDigit char = true
  continues : ∀ next, text[place + 1]? = some next →
    isDigit next = true ∨ next = 'e' ∨ next = 'E' ∨ isSeparator next = true

/-- A number that is still going on at a place of a text ends in front of it: there is a separator
that is neither the sign of an exponent nor the point of a decimal number. -/
structure NumberEndsAt (text : List Char) (place : Nat) : Prop where
  separator : ∃ char, text[place]? = some char ∧ isSeparator char = true
  not_sign : ¬ SignAt text place
  not_point : ¬ PointAt text place

/-- A number that begins at a place of a text goes on to the first later one where numbers end, or
to the end of the text. -/
structure NumberRuns (text : List Char) (start stop : Nat) : Prop where
  start_lt : start < stop
  stop_le : stop ≤ text.length
  passes : ∀ place, start < place → place < stop → ¬ NumberEndsAt text place
  ends : stop = text.length ∨ NumberEndsAt text stop

/-- The separators of numbers are the others but for a sign behind the mark of an exponent. -/
theorem isNumberSeparator_iff {previous : Option Char} {char : Char} :
    isNumberSeparator previous char = true ↔ isSeparator char = true ∧
      ¬ ((char = '+' ∨ char = '-') ∧ (previous = some 'e' ∨ previous = some 'E')) := by
  unfold isNumberSeparator
  split <;> grind

/-- A decimal point goes on in front of a digit, the mark of an exponent, a separator or the end. -/
theorem isDecimalPointContinuation_iff {next : Option Char} :
    isDecimalPointContinuation next = true ↔ ∀ char, next = some char →
      isDigit char = true ∨ char = 'e' ∨ char = 'E' ∨ isSeparator char = true := by
  cases next <;> simp [isDecimalPointContinuation, or_assoc]

section

variable (front : List Char) (char : Char) (rest : List Char)

/-- The character behind one that stands behind `front`. -/
theorem getElem?_next : (front ++ char :: rest)[front.length + 1]? = rest.head? := by
  rw [List.getElem?_append_right (by omega)]
  simp [List.head?_eq_getElem?]

/-- The character in front of one that stands behind `front`. -/
theorem getElem?_before {before : Nat} (h : front.length = before + 1) :
    (front ++ char :: rest)[before]? = front.getLast? := by
  rw [List.getElem?_append_left (by omega), List.getLast?_eq_getElem?, h]
  rfl

/-- There is a place in front of what stands behind a character. -/
theorem exists_before {last : Char} (h : front.getLast? = some last) :
    ∃ before, front.length = before + 1 := by
  cases front with
  | nil => cases h
  | cons first front => exact ⟨_, rfl⟩

/-- The sign of an exponent is told from the character in front of it. -/
theorem signAt_iff : SignAt (front ++ char :: rest) front.length ↔
    (char = '+' ∨ char = '-') ∧ (front.getLast? = some 'e' ∨ front.getLast? = some 'E') := by
  constructor
  · rintro ⟨hsign, before, hbefore, hexponent⟩
    rw [getElem?_before front char rest hbefore] at hexponent
    exact ⟨by simpa using hsign, hexponent⟩
  · rintro ⟨hsign, hexponent⟩
    obtain ⟨before, hbefore⟩ : ∃ before, front.length = before + 1 :=
      hexponent.elim (exists_before front) (exists_before front)
    refine ⟨by simpa using hsign, before, hbefore, ?_⟩
    rwa [getElem?_before front char rest hbefore]

/-- The point of a decimal number is told from the characters around it. -/
theorem pointAt_iff : PointAt (front ++ char :: rest) front.length ↔
    isDecimalPoint front.getLast? char rest.head? = true := by
  rw [isDecimalPoint, Bool.and_eq_true, Bool.and_eq_true, beq_iff_eq, Option.any_eq_true,
    isDecimalPointContinuation_iff]
  constructor
  · rintro ⟨hpoint, ⟨before, digit, hbefore, hdigit, hisDigit⟩, hcontinues⟩
    rw [getElem?_before front char rest hbefore] at hdigit
    rw [getElem?_next] at hcontinues
    exact ⟨⟨by simpa using hpoint, digit, hdigit, hisDigit⟩, hcontinues⟩
  · rintro ⟨⟨hpoint, digit, hdigit, hisDigit⟩, hcontinues⟩
    obtain ⟨before, hbefore⟩ := exists_before front hdigit
    refine ⟨by simpa using hpoint, ⟨before, digit, hbefore, ?_, hisDigit⟩, ?_⟩
    · rwa [getElem?_before front char rest hbefore]
    · rwa [getElem?_next]

/-- The scan of a number stops at a character just if numbers end there. -/
theorem numberEndsAt_iff : NumberEndsAt (front ++ char :: rest) front.length ↔
    endsNumber front.getLast? char rest.head? = true := by
  rw [endsNumber, Bool.and_eq_true, Bool.not_eq_true', isNumberSeparator_iff,
    ← signAt_iff front char rest, ← Bool.not_eq_true, ← pointAt_iff]
  constructor
  · rintro ⟨hseparator, hsign, hpoint⟩
    exact ⟨⟨by simpa using hseparator, hsign⟩, hpoint⟩
  · rintro ⟨⟨hseparator, hsign⟩, hpoint⟩
    exact ⟨by simpa using hseparator, hsign, hpoint⟩

end

/-- Whether numbers end behind some characters does not depend on what is in front of these. -/
theorem numberEndsAt_behind (front : List Char) {before : List Char} (h : before ≠ [])
    (char : Char) (rest : List Char) :
    NumberEndsAt (front ++ (before ++ char :: rest)) (front.length + before.length) ↔
      endsNumber before.getLast? char rest.head? = true := by
  have hlast : (front ++ before).getLast? = before.getLast? := by
    rw [List.getLast?_append, List.getLast?_eq_some_getLast h, Option.some_or]
  have hends := numberEndsAt_iff (front ++ before) char rest
  rwa [List.append_assoc, List.length_append, hlast] at hends

/-- What is cut off as a number goes on to where numbers end, whatever is in front of it. -/
theorem numberRuns_of_split (front : List Char) {first : Char} {tail lexeme rest : List Char}
    (h : splitWhere endsNumber [first] tail = (lexeme, rest)) :
    NumberRuns (front ++ first :: tail) front.length (front.length + lexeme.length) := by
  have happend := splitWhere_append endsNumber [first] tail
  have hrest := length_splitWhere_le endsNumber [first] tail
  simp only [h] at happend hrest
  have htext : first :: tail = lexeme ++ rest := happend.symm
  have hlength := congrArg List.length htext
  rw [List.length_cons, List.length_append] at hlength
  have hlexeme : lexeme ≠ [] := by
    rintro rfl
    simp only [List.length_nil] at hlength
    omega
  have hpositive := List.length_pos_iff.2 hlexeme
  rw [htext]
  refine ⟨by omega, by simp only [List.length_append]; omega, fun place hlt hplace => ?_, ?_⟩
  · obtain ⟨count, rfl⟩ := Nat.exists_eq_add_of_lt hlt
    obtain ⟨before, char, behind, rfl, hbefore⟩ : ∃ before char behind,
        lexeme = before ++ char :: behind ∧ before.length = count + 1 := by
      have hcut := (List.take_append_drop (count + 1) lexeme).symm
      rw [List.drop_eq_getElem_cons (by omega)] at hcut
      exact ⟨_, _, _, hcut, by rw [List.length_take]; omega⟩
    have hnonempty : before ≠ [] := List.length_pos_iff.1 (by omega)
    have hstop := not_stop_of_splitWhere h (by simp only [List.length_singleton]; omega)
    rw [Nat.add_assoc, ← hbefore, List.append_assoc, List.cons_append,
      numberEndsAt_behind front hnonempty, hstop]
    exact Bool.false_ne_true
  · cases rest with
    | nil => exact .inl (by simp)
    | cons char rest =>
      have hstop := stop_of_splitWhere h
      rw [List.head?_reverse] at hstop
      exact .inr ((numberEndsAt_behind front hlexeme char rest).2 hstop)

/-- Where a digit stands first, a number is cut off, and it goes on to where numbers end. -/
theorem Lexeme.exists_number {first : Char} (h : isDigit first = true) (tail : List Char) :
    ∃ lexeme rest, split first tail = (.number lexeme, rest) ∧ first :: tail = lexeme ++ rest ∧
      ∀ front, NumberRuns (front ++ first :: tail) front.length
        (front.length + lexeme.length) := by
  obtain ⟨lexeme, rest, hsplit⟩ : ∃ lexeme rest,
      splitWhere endsNumber [first] tail = (lexeme, rest) := ⟨_, _, rfl⟩
  have hcut : split first tail = (.number lexeme, rest) := by
    rw [split_of_isDigit h, hsplit]
  have happend := text_append_rest first tail
  rw [hcut] at happend
  exact ⟨lexeme, rest, hcut, happend.symm, fun front => numberRuns_of_split front hsplit⟩

namespace Lexer

/-- A step that does not end a lexer passes white space and a lexeme. -/
theorem lexes_of_not_ends {lexer : Lexer} (h : ¬ lexer.next.Ends) :
    ∃ first tail, lexer.Lexes (gapOf lexer.cursor.rest) first tail ∧
      lexer.next = lexer.skipBlank.lex first tail ∧
      lexer.skipBlank.cursor.rest = first :: tail := by
  have hfinished : lexer.finished = false := by
    cases hfinished : lexer.finished with
    | false => rfl
    | true => exact absurd (.inl (by rw [next_of_finished hfinished])) h
  rcases step_cases hfinished with
    ⟨hnext, -⟩ | ⟨_, _, hnext, -, -⟩ | ⟨first, tail, hnext, -, hlexes, hrest⟩
  · exact absurd (hnext ▸ .inl rfl) h
  · exact absurd (hnext ▸ .inr ⟨_, _, rfl⟩) h
  · exact ⟨first, tail, hlexes, hnext, hrest⟩

/-- A step that does not end a lexer is one over a lexeme, behind the white space. -/
theorem lex_of_not_ends {lexer : Lexer} (h : ¬ lexer.next.Ends) :
    ∃ first tail, lexer.next = lexer.skipBlank.lex first tail ∧
      lexer.skipBlank.cursor.rest = first :: tail := by
  obtain ⟨first, tail, -, hnext, hrest⟩ := lexes_of_not_ends h
  exact ⟨first, tail, hnext, hrest⟩

/-- Steps pass a beginning of the text. -/
theorem exists_passes_after (lexer : Lexer) (count : Nat) :
    ∃ taken, lexer.cursor.Passes taken (lexer.after count).cursor := by
  induction count with
  | zero => exact ⟨[], .refl _⟩
  | succ count ih =>
    obtain ⟨front, hfront⟩ := ih
    obtain ⟨back, hback, -⟩ := (lexer.after count).exists_passes_next
    exact ⟨front ++ back, hfront.trans hback⟩

end Lexer

/-- Wherever a lexer comes to a digit, the lexeme that it takes for its next item, be it a token or
an error, is what stands between there and the place where numbers end. -/
theorem number_extent (preferences : LexicalPreferences) (source : String) (count : Nat) :
    let lexer := (Lexer.ofString preferences source).after count
    let start := lexer.skipBlank.cursor.offset
    let stop := lexer.next.lexer.cursor.offset
    source.toList[start]?.any isDigit = true → ¬ lexer.next.Ends →
      NumberRuns source.toList start stop ∧
        lexer.next.item = some ((Lexeme.number ((source.toList.take stop).drop start)).token
          ⟨Location.start.advanceOver (source.toList.take start),
            Location.start.advanceOver (source.toList.take stop)⟩) := by
  intro lexer start stop hdigit hopen
  obtain ⟨first, tail, hnext, hrest⟩ := Lexer.lex_of_not_ends hopen
  obtain ⟨taken, hpasses⟩ := (Lexer.ofString preferences source).exists_passes_after count
  obtain ⟨hsource, hcursor⟩ := hpasses.trans lexer.passes_skipBlank
  generalize taken ++ gapOf lexer.cursor.rest = front at hsource hcursor
  rw [hrest] at hsource hcursor
  have hstart : start = front.length := by
    show lexer.skipBlank.cursor.offset = front.length
    rw [hcursor]
    exact Nat.zero_add _
  have htext : source.toList = front ++ first :: tail := hsource
  have hfirst : isDigit first = true := by simpa [hstart, htext] using hdigit
  obtain ⟨lexeme, rest, hcut, htail, hruns⟩ := Lexeme.exists_number hfirst tail
  have hstop : stop = front.length + lexeme.length := by
    show lexer.next.lexer.cursor.offset = _
    rw [hnext, Lexer.lex, Lexer.cursor_settle, hcut]
    show lexer.skipBlank.cursor.offset + lexeme.length = _
    rw [← hstart]
  have hbefore : source.toList.take start = front := by simp [htext, hstart]
  have hupto : source.toList.take stop = front ++ lexeme := by
    rw [htext, hstop, htail, ← List.append_assoc, ← List.length_append, List.take_left]
  refine ⟨?_, ?_⟩
  · rw [htext, hstart, hstop]
    exact hruns front
  · rw [hupto, hbefore, hstart, List.drop_left, hnext, Lexer.lex, Lexer.item_settle, hcut]
    have hlocation : lexer.skipBlank.cursor.location = Location.start.advanceOver front := by
      rw [hcursor]
      rfl
    rw [Location.advanceOver_append, ← hlocation]
    rfl

/-- A number keeps its point in front of an exponent, and the sign of that, whether or not digits
follow; here none do. -/
theorem number_extent_malformed :
    let lexer := (Lexer.ofString default "x 1.e+;").after 1
    NumberRuns "x 1.e+;".toList 2 6 ∧
      lexer.next.item =
        some (.error (.token ⟨.malformedInteger, "1.e+", ⟨⟨1, 3⟩, ⟨1, 7⟩⟩⟩)) := by
  intro lexer
  have hitem : lexer.next.item =
      some (.error (.token ⟨.malformedInteger, "1.e+", ⟨⟨1, 3⟩, ⟨1, 7⟩⟩⟩)) := by
    with_unfolding_all rfl
  have hstart : lexer.skipBlank.cursor.offset = 2 := by with_unfolding_all rfl
  have hstop : lexer.next.lexer.cursor.offset = 6 := by with_unfolding_all rfl
  have hopen : ¬ lexer.next.Ends := by simp [Lexer.Step.Ends, hitem]
  have hextent := number_extent default "x 1.e+;" 1
  simp only at hextent
  rw [hstart, hstop] at hextent
  obtain ⟨hruns, -⟩ := hextent (by decide) hopen
  exact ⟨hruns, hitem⟩

end VinylSyntax
