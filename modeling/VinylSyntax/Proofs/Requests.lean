import VinylSyntax.Proofs.Stepping

/-!
# Requests to a lookahead

A lookahead can be asked for the next token in three ways, in any order. Whatever was asked before,
the answer depends on nothing but the tokens of the lexer up to its first error, the number of them
that were handed out, and whether the iteration has given the error: see `answers_of_requests`. The
lexer is always exactly one item ahead of what was handed out.
-/

namespace VinylSyntax

/-- A token, no token since there is none left, or an error. -/
abbrev Answer := Except LexicalError (Option Token)

namespace Answer

/-- Whether an answer is a token. -/
def isToken : Answer → Bool
  | .ok (some _) => true
  | _ => false

/-- Whether an answer is an error. -/
def isError : Answer → Bool
  | .error _ => true
  | _ => false

/-- The answer that an item is; there is none at the end. -/
def ofItem? : Option Item → Answer
  | some (.ok token) => .ok (some token)
  | some (.error error) => .error error
  | none => .ok none

end Answer

/-- What is answered at a place among tokens: the token that stands there, and behind the last one
the error or, if there is none, nothing. -/
def Lexer.Tokens.answer (taken : Tokens) (place : Nat) : Answer :=
  match taken.tokens[place]?, taken.failure with
  | some token, _ => .ok (some token)
  | none, some error => .error error
  | none, none => .ok none

namespace Lookahead

/-- The ways in which a lookahead is asked for the next token. -/
inductive Request where
  | peek
  | read
  | iterate
deriving DecidableEq, Inhabited

/-- What a request is answered with. -/
def answer (lookahead : Lookahead) : Request → Answer
  | .peek => lookahead.peek
  | .read => lookahead.read.result
  | .iterate => .ofItem? lookahead.iterate.item

/-- The lookahead behind a request. -/
def behind (lookahead : Lookahead) : Request → Lookahead
  | .peek => lookahead
  | .read => lookahead.read.lookahead
  | .iterate => lookahead.iterate.lookahead

/-- Whether a request hands out a token, which inspecting it does not. -/
def handsOut (lookahead : Lookahead) : Request → Bool
  | .peek => false
  | .read => Answer.isToken (lookahead.answer .read)
  | .iterate => Answer.isToken (lookahead.answer .iterate)

/-- Whether a request makes the iteration give the error. -/
def givesError (lookahead : Lookahead) : Request → Bool
  | .peek => false
  | .read => false
  | .iterate => Answer.isError (lookahead.answer .iterate)

/-- The lookahead behind several requests. -/
def behindAll (lookahead : Lookahead) (requests : List Request) : Lookahead :=
  requests.foldl behind lookahead

/-- How many tokens are handed out by several requests. -/
def handedOut (lookahead : Lookahead) : List Request → Nat
  | [] => 0
  | request :: requests =>
    (lookahead.handsOut request).toNat + (lookahead.behind request).handedOut requests

/-- Whether the iteration gives the error in one of several requests. -/
def errorIterated (lookahead : Lookahead) : List Request → Bool
  | [] => false
  | request :: requests =>
    lookahead.givesError request || (lookahead.behind request).errorIterated requests

end Lookahead

namespace Lexer

variable {lexer : Lexer}

/-- As long as tokens follow, a step gives the next of them. -/
theorem item_after_of_lt {count : Nat} (h : count < lexer.takeTokens.tokens.length) :
    (lexer.after count).next.item = some (.ok lexer.takeTokens.tokens[count]) := by
  rw [← getElem?_items_run]
  rcases lexer.items_run_eq with ⟨-, hitems⟩ | ⟨error, later, -, hitems⟩
  · rw [hitems]
    simp [h]
  · rw [hitems, List.getElem?_append_left (by simpa using h)]
    simp [h]

/-- Behind the last token, a step gives the error, or nothing. -/
theorem item_after_length : (lexer.after lexer.takeTokens.tokens.length).next.item =
    lexer.takeTokens.failure.map .error := by
  rw [← getElem?_items_run]
  rcases lexer.items_run_eq with ⟨hnone, hitems⟩ | ⟨error, later, hsome, hitems⟩
  · rw [hitems, hnone]
    simp
  · rw [hitems, hsome, List.getElem?_append_right (by simp)]
    simp

/-- What the steps give up to the first error are the answers among the tokens. -/
theorem answer_after {count : Nat} (h : count ≤ lexer.takeTokens.tokens.length) :
    .ofItem? (lexer.after count).next.item = lexer.takeTokens.answer count := by
  by_cases hlt : count < lexer.takeTokens.tokens.length
  · rw [item_after_of_lt hlt, Tokens.answer, List.getElem?_eq_getElem hlt]
    rfl
  · obtain rfl : count = lexer.takeTokens.tokens.length := by omega
    rw [item_after_length, Tokens.answer, List.getElem?_eq_none (Nat.le_refl _)]
    cases lexer.takeTokens.failure <;> rfl

/-- Taking tokens up to the first error or the end takes one step more than there are tokens. -/
theorem lexer_takeTokens (lexer : Lexer) :
    lexer.takeTokens.lexer = lexer.after (lexer.takeTokens.tokens.length + 1) := by
  induction hremaining : lexer.remaining using Nat.strongRecOn generalizing lexer with
  | ind _ ih =>
    cases hitem : lexer.next.item with
    | none =>
      rw [takeTokens, takeTokensFrom_of_none [] [] hitem]
      rfl
    | some item =>
      cases item with
      | error error =>
        rw [takeTokens, takeTokensFrom_of_error [] [] hitem]
        rfl
      | ok token =>
        have hlt := lexer.remaining_next_lt (by simp [hitem])
        obtain ⟨htokens, -, hlexer⟩ := takeTokens_cons hitem
        rw [hlexer, htokens, ih _ (by omega) lexer.next.lexer rfl, List.length_cons, ← after_succ]

end Lexer

namespace Lookahead

/-- A lookahead over a lexer has handed out a number of its tokens, and `given` tells whether the
iteration has given the error: it holds the item that is next then, and the lexer is behind that. -/
structure Holds (lexer : Lexer) (count : Nat) (given : Bool) (lookahead : Lookahead) : Prop where
  count_le : count ≤ lexer.takeTokens.tokens.length
  lexer_eq : lookahead.lexer = lexer.after (count + 1)
  pending_eq : lookahead.pending = (lexer.after count).next.item
  errorGiven_eq : lookahead.errorGiven = given
  stuck : given = true → ∃ error, lookahead.pending = some (.error error)

variable {lexer : Lexer} {count : Nat} {given : Bool} {lookahead : Lookahead}

/-- Looking ahead begins with no token given. -/
theorem holds_ofLexer (lexer : Lexer) : Holds lexer 0 false (ofLexer lexer).1 :=
  ⟨Nat.zero_le _, rfl, rfl, rfl, fun h => (nomatch h)⟩

/-- Inspecting and reading answer with the item that is held. -/
theorem peek_eq (lookahead : Lookahead) : lookahead.peek = Answer.ofItem? lookahead.pending := by
  unfold peek Answer.ofItem?
  split <;> simp_all

/-- Reading answers with the item that is pending. -/
theorem read_eq (lookahead : Lookahead) :
    lookahead.read.result = Answer.ofItem? lookahead.pending := by
  unfold read Answer.ofItem?
  split <;> simp_all

/-- Without a token to hand out, reading changes nothing. -/
theorem read_unchanged (h : ∀ token, lookahead.pending ≠ some (.ok token)) :
    lookahead.read.lookahead = lookahead := by
  unfold read
  split
  · next token hpending => exact absurd hpending (h token)
  · rfl
  · rfl

/-- Iterating gives the pending token and goes on behind it. -/
theorem iterate_of_token {token : Token} (h : lookahead.pending = some (.ok token)) :
    lookahead.iterate.item = some (.ok token) ∧
      lookahead.iterate.lookahead = lookahead.read.lookahead := by
  simp [iterate, read, h]

/-- Iterating gives nothing at the end and stays there. -/
theorem iterate_of_none (h : lookahead.pending = none) :
    lookahead.iterate.item = none ∧ lookahead.iterate.lookahead = lookahead := by
  simp [iterate, read, h]

/-- The iteration gives the error once. -/
theorem iterate_of_error {error : LexicalError} (h : lookahead.pending = some (.error error)) :
    lookahead.iterate.item = (if lookahead.errorGiven then none else some (.error error)) ∧
      lookahead.iterate.lookahead = { lookahead with errorGiven := true } := by
  cases hgiven : lookahead.errorGiven with
  | true =>
    have hsame : lookahead = { lookahead with errorGiven := true } := by rw [← hgiven]
    simpa [iterate, read, h, hgiven] using hsame
  | false => simp [iterate, read, h, hgiven]

namespace Holds

/-- What is answered when a number of tokens was handed out. -/
theorem answer_pending (h : Holds lexer count given lookahead) :
    Answer.ofItem? lookahead.pending = lexer.takeTokens.answer count := by
  rw [h.pending_eq]
  exact Lexer.answer_after h.count_le

/-- Reading the token that is held hands it out. -/
theorem read (h : Holds lexer count given lookahead) {token : Token}
    (hpending : lookahead.pending = some (.ok token)) :
    Holds lexer (count + 1) given lookahead.read.lookahead := by
  have hlt : count < lexer.takeTokens.tokens.length := by
    refine Nat.lt_of_le_of_ne h.count_le ?_
    rintro rfl
    have hend := h.pending_eq.symm.trans hpending
    rw [Lexer.item_after_length] at hend
    cases hfailure : lexer.takeTokens.failure <;> simp [hfailure] at hend
  simp only [Lookahead.read, hpending]
  refine ⟨hlt, ?_, ?_, h.errorGiven_eq, fun hgiven => ?_⟩
  · rw [h.lexer_eq]
    rfl
  · rw [h.lexer_eq]
  · obtain ⟨error, herror⟩ := h.stuck hgiven
    simp [hpending] at herror

/-- A request hands out the token that is held, if it does, and makes the iteration give the error,
if it does. Nothing else changes. -/
theorem behind (h : Holds lexer count given lookahead) (request : Request) :
    Holds lexer (count + (lookahead.handsOut request).toNat)
      (given || lookahead.givesError request) (lookahead.behind request) := by
  cases request with
  | peek =>
    rw [givesError, Bool.or_false]
    exact h
  | read =>
    rw [givesError, Bool.or_false, handsOut, answer, read_eq]
    by_cases htoken : ∃ token, lookahead.pending = some (.ok token)
    · obtain ⟨token, hpending⟩ := htoken
      rw [hpending]
      exact h.read hpending
    · have hnone : ∀ token, lookahead.pending ≠ some (.ok token) := fun token hpending =>
        htoken ⟨token, hpending⟩
      have hanswer : Answer.isToken (Answer.ofItem? lookahead.pending) = false := by
        unfold Answer.ofItem?
        split
        · next token hpending => exact absurd hpending (hnone token)
        · rfl
        · rfl
      rw [hanswer, Lookahead.behind, read_unchanged hnone]
      exact h
  | iterate =>
    rw [givesError, handsOut, answer, Lookahead.behind]
    cases hpending : lookahead.pending with
    | none =>
      obtain ⟨hitem, hlookahead⟩ := iterate_of_none hpending
      rw [hitem, hlookahead]
      simpa [Answer.ofItem?, Answer.isToken, Answer.isError] using h
    | some item =>
      cases item with
      | ok token =>
        obtain ⟨hitem, hlookahead⟩ := iterate_of_token hpending
        rw [hitem, hlookahead]
        simpa [Answer.ofItem?, Answer.isToken, Answer.isError] using h.read hpending
      | error error =>
        -- The iteration has given the error behind this request, whether it had before or not.
        obtain ⟨hitem, hlookahead⟩ := iterate_of_error hpending
        have hgiven := h.errorGiven_eq
        have htoken : Answer.isToken (Answer.ofItem? lookahead.iterate.item) = false := by
          rw [hitem]
          split <;> rfl
        have herror : (given || Answer.isError (Answer.ofItem? lookahead.iterate.item)) = true := by
          rw [hitem, ← hgiven]
          cases lookahead.errorGiven <;> rfl
        rw [htoken, herror, hlookahead]
        exact ⟨h.count_le, h.lexer_eq, h.pending_eq, rfl, fun _ => ⟨error, hpending⟩⟩

/-- Several requests hand out some of the tokens that follow. -/
theorem behindAll (h : Holds lexer count given lookahead) (requests : List Request) :
    Holds lexer (count + lookahead.handedOut requests)
      (given || lookahead.errorIterated requests) (lookahead.behindAll requests) := by
  induction requests generalizing count given lookahead with
  | nil => simpa [handedOut, errorIterated, Lookahead.behindAll] using h
  | cons request requests ih =>
    have hrest := ih (h.behind request)
    rw [Nat.add_assoc, Bool.or_assoc] at hrest
    exact hrest

/-- The iteration answers as reading does, but gives nothing once it has given the error. -/
theorem answer_iterate (h : Holds lexer count given lookahead) :
    lookahead.answer .iterate = if given then .ok none else lexer.takeTokens.answer count := by
  rw [← h.answer_pending, answer]
  cases hpending : lookahead.pending with
  | none =>
    rw [(iterate_of_none hpending).1]
    split <;> rfl
  | some item =>
    cases item with
    | ok token =>
      have hgiven : given = false := by
        cases hgiven : given with
        | false => rfl
        | true =>
          obtain ⟨error, herror⟩ := h.stuck hgiven
          simp [hpending] at herror
      rw [(iterate_of_token hpending).1, hgiven]
      rfl
    | error error =>
      rw [(iterate_of_error hpending).1, h.errorGiven_eq]
      cases given <;> rfl

/-- Reading and iterating hand out a token as long as there is one. -/
theorem handsOut_eq (h : Holds lexer count given lookahead) (request : Request) :
    lookahead.handsOut request =
      (request != .peek && decide (count < lexer.takeTokens.tokens.length)) := by
  have hanswer : Answer.isToken (lexer.takeTokens.answer count) =
      decide (count < lexer.takeTokens.tokens.length) := by
    by_cases hlt : count < lexer.takeTokens.tokens.length
    · simp [Lexer.Tokens.answer, Answer.isToken, hlt]
    · rw [Lexer.Tokens.answer, List.getElem?_eq_none (Nat.le_of_not_lt hlt)]
      cases lexer.takeTokens.failure <;> simp [Answer.isToken, hlt]
  cases request with
  | peek => rfl
  | read =>
    rw [handsOut, answer, read_eq, h.answer_pending, hanswer]
    rfl
  | iterate =>
    rw [handsOut, h.answer_iterate]
    cases hgiven : given with
    | false => exact hanswer
    | true =>
      -- What is held is the error, so no token is left.
      obtain ⟨error, herror⟩ := h.stuck hgiven
      have hleft := h.answer_pending
      rw [herror] at hleft
      rw [← hleft] at hanswer
      exact hanswer

/-- While a token is held, the lexer rests behind it. -/
theorem location_of_lt (h : Holds lexer count given lookahead)
    (hlt : count < lexer.takeTokens.tokens.length) :
    lookahead.location = lexer.takeTokens.tokens[count].span.stop := by
  rw [Lookahead.location, h.lexer_eq]
  exact Lexer.location_next_of_item (Lexer.item_after_of_lt hlt)

/-- Once all tokens are handed out, the lexer is where it is when they are all taken. -/
theorem lexer_of_length (h : Holds lexer count given lookahead)
    (hend : count = lexer.takeTokens.tokens.length) :
    lookahead.lexer = lexer.takeTokens.lexer := by
  rw [h.lexer_eq, Lexer.lexer_takeTokens, hend]

end Holds

/-- Requests behind one another hand out what each of them does. -/
theorem handedOut_append (lookahead : Lookahead) (front back : List Request) :
    lookahead.handedOut (front ++ back) =
      lookahead.handedOut front + (lookahead.behindAll front).handedOut back := by
  induction front generalizing lookahead with
  | nil => exact (Nat.zero_add _).symm
  | cons request front ih =>
    show (lookahead.handsOut request).toNat + (lookahead.behind request).handedOut (front ++ back) =
      _
    rw [ih, ← Nat.add_assoc]
    rfl

end Lookahead

/-- Whatever a lookahead over a lexer was asked: of the tokens up to the first error a number was
handed out, and the lexer has taken exactly one step more than that. Inspecting and reading are
answered with the token that is next, and behind the last one with the error, every time, or with
nothing if there is none; inspecting changes nothing. The iteration answers likewise, but gives the
error only once. Reading and iterating hand out the token that is next. The lookahead is located at
the end of that token, and finally where the lexer rests. -/
theorem answers_of_requests (lexer : Lexer) (requests : List Lookahead.Request) :
    let taken := lexer.takeTokens
    let first := (Lookahead.ofLexer lexer).1
    let count := first.handedOut requests
    let lookahead := first.behindAll requests
    count ≤ taken.tokens.length ∧
      lookahead.answer .peek = taken.answer count ∧ lookahead.behind .peek = lookahead ∧
      lookahead.answer .read = taken.answer count ∧
      lookahead.answer .iterate =
        (if first.errorIterated requests then .ok none else taken.answer count) ∧
      (∀ request, first.handedOut (requests ++ [request]) =
        if request ≠ .peek ∧ count < taken.tokens.length then count + 1 else count) ∧
      lookahead.lexer = lexer.after (count + 1) ∧
      (∀ h : count < taken.tokens.length, lookahead.location = taken.tokens[count].span.stop) ∧
      (count = taken.tokens.length → lookahead.lexer = taken.lexer ∧
        lookahead.location = taken.lexer.location) := by
  intro taken first count lookahead
  have holds : Lookahead.Holds lexer count (first.errorIterated requests) lookahead := by
    have hall := (Lookahead.holds_ofLexer lexer).behindAll requests
    rwa [Nat.zero_add, Bool.false_or] at hall
  refine ⟨holds.count_le, ?_, rfl, ?_, holds.answer_iterate, fun request => ?_, holds.lexer_eq,
    fun h => holds.location_of_lt h, fun h => ?_⟩
  · exact lookahead.peek_eq.trans holds.answer_pending
  · exact lookahead.read_eq.trans holds.answer_pending
  · have hout : first.handedOut (requests ++ [request]) =
        count + (lookahead.handsOut request).toNat :=
      first.handedOut_append requests [request]
    rw [hout, holds.handsOut_eq request]
    by_cases hpeek : request = .peek
    · simp [hpeek]
    · by_cases hlt : count < lexer.takeTokens.tokens.length
      · simp [hpeek, hlt, taken]
      · simp [hlt, taken]
  · have hlexer := holds.lexer_of_length h
    exact ⟨hlexer, congrArg Lexer.location hlexer⟩

/-- Behind a word stands a character that begins nothing. When the iteration has given the word and
the error, reading still gives the error, and the iteration nothing more. -/
theorem answers_of_requests_error :
    let first := (Lookahead.ofLexer (.ofString default "a @ b")).1
    let lookahead := first.behindAll [.peek, .iterate, .iterate]
    let error := LexicalError.token ⟨.malformedSymbol, "@", ⟨⟨1, 3⟩, ⟨1, 4⟩⟩⟩
    first.handedOut [.peek, .iterate, .iterate] = 1 ∧
      lookahead.answer .read = .error error ∧ lookahead.answer .iterate = .ok none ∧
      lookahead.lexer = (Lexer.ofString default "a @ b").after 2 ∧
      lookahead.location = ⟨1, 4⟩ := by
  intro first lookahead error
  obtain ⟨-, -, -, hread, hiterate, -, hlexer, -, -⟩ :=
    answers_of_requests (.ofString default "a @ b") [.peek, .iterate, .iterate]
  have hcount : first.handedOut [.peek, .iterate, .iterate] = 1 := by
    with_unfolding_all rfl
  have hgiven : first.errorIterated [.peek, .iterate, .iterate] = true := by
    with_unfolding_all rfl
  have hanswer : (Lexer.ofString default "a @ b").takeTokens.answer 1 = .error error := by
    with_unfolding_all rfl
  have hlocation : ((Lexer.ofString default "a @ b").after 2).location = ⟨1, 4⟩ := by
    with_unfolding_all rfl
  rw [hgiven] at hiterate
  rw [hcount] at hread hlexer
  exact ⟨hcount, hread.trans hanswer, hiterate, hlexer,
    (congrArg Lexer.location hlexer).trans hlocation⟩

end VinylSyntax
