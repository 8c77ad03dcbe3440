import VinylSyntax.Proofs.Rule

/-!
# Actions that follow rules

An action of the parser follows a rule (`Follows`) if from every state it either takes a phrase of
the rule off what is ahead, or fails with the right error at the leftmost place: behind tokens that
can be completed to a phrase, with a token that no phrase has there. Actions are made of smaller
ones by sequence, choice and repetition, and so are rules: `Follows.bind`, `FollowsAt.choice` and
`collect_follows` say that the two go together.
-/

namespace VinylSyntax

namespace Parse

variable {α β : Type}

/-- From a state of the parser, an action reads a phrase of a rule or fails for the right reason. -/
def FollowsAt (action : Parse α) (rule : Rule α) (parser : Parser) : Prop :=
  match action parser with
  | .ok value behind => rule.Accepts parser value behind
  | .error error _ => rule.Rejects parser.ahead error

/-- From every state of the parser, an action reads a phrase of a rule or fails for the right
reason. -/
def Follows (action : Parse α) (rule : Rule α) : Prop := ∀ parser, FollowsAt action rule parser

/-- An action that follows a rule follows a wider one that it can stand for. -/
theorem FollowsAt.widen {action : Parse α} {rule other : Rule α} {parser : Parser}
    (h : FollowsAt action rule parser) (hnarrows : rule.Narrows other parser.ahead.tokens.head?) :
    FollowsAt action other parser := by
  unfold FollowsAt at h ⊢
  split at h
  · exact hnarrows.accepts rfl h
  · exact hnarrows.rejects rfl h

/-- An action that goes on from a state with the same view follows a rule there as well. -/
theorem FollowsAt.of_ahead {action other : Parse α} {rule : Rule α} {parser ready : Parser}
    (h : FollowsAt action rule ready) (haction : other parser = action ready)
    (hahead : ready.ahead = parser.ahead) (hallowance : ready.allowance ≤ parser.allowance) :
    FollowsAt other rule parser := by
  unfold FollowsAt at h ⊢
  rw [haction]
  split at h
  · obtain ⟨taken, htaken, hle, hlimited, hsettles⟩ := h
    exact ⟨taken, by rw [← hahead, htaken], by omega, hlimited, hsettles⟩
  · rw [← hahead]
    exact h

/-- Behind a success, an action goes on with its value. -/
theorem bind_ok {action : Parse α} {continuation : α → Parse β} {parser behind : Parser} {value : α}
    (h : action parser = .ok value behind) :
    (action >>= continuation) parser = continuation value behind := by
  simp [bind, EStateM.bind, h]

/-- Behind a failure, an action does not go on. -/
theorem bind_error {action : Parse α} {continuation : α → Parse β} {parser stuck : Parser}
    {error : SyntaxError} (h : action parser = .error error stuck) :
    (action >>= continuation) parser = .error error stuck := by
  simp [bind, EStateM.bind, h]

/-- An action changes nothing that a rule is about. -/
def Quiet (action : Parse Unit) : Prop :=
  ∀ parser : Parser, ∃ ready, action parser = .ok () ready ∧ ready.ahead = parser.ahead ∧
    ready.allowance = parser.allowance

/-- Entering a production changes nothing that a rule is about. -/
theorem enter_quiet (production : Production) : Quiet (enter production) := fun parser =>
  ⟨_, rfl, by simp [Parser.ahead], by simp [Parser.allowance]⟩

/-- Leaving a production changes nothing that a rule is about. -/
theorem leave_quiet : Quiet leave := fun _ => ⟨_, rfl, rfl, rfl⟩

/-- What follows a rule behind a quiet action follows it with the quiet action in front as well. -/
theorem Follows.quiet_bind {action : Parse Unit} {continuation : Unit → Parse α} {rule : Rule α}
    (hquiet : Quiet action) (h : Follows (continuation ()) rule) :
    Follows (action >>= continuation) rule := by
  intro parser
  obtain ⟨ready, hresult, hahead, hallowance⟩ := hquiet parser
  exact (h ready).of_ahead (bind_ok hresult) hahead (Nat.le_of_eq hallowance)

/-- A quiet action behind what follows a rule changes nothing about that. -/
theorem Follows.bind_quiet {action : Parse α} {after : Parse Unit} {rule : Rule α}
    (h : Follows action rule) (hquiet : Quiet after) :
    Follows (do let value ← action
                after
                return value) rule := by
  intro parser
  have hat := h parser
  unfold FollowsAt at hat ⊢
  split at hat
  · next value behind hresult =>
    obtain ⟨last, hlast, hahead, hallowance⟩ := hquiet behind
    rw [bind_ok hresult, bind_ok hlast]
    show rule.Accepts parser value last
    rw [Rule.Accepts, hahead, hallowance]
    exact hat
  · next hresult =>
    rw [bind_error hresult]
    exact hat

/-- Leaving a production behind an action changes nothing about what the action follows. -/
theorem leaving_follows {action : Parse α} {rule : Rule α} (h : Follows action rule) :
    Follows (leaving action) rule := by
  intro parser
  have hat := h parser
  cases hresult : action parser with
  | ok value behind =>
    rw [FollowsAt, hresult] at hat
    simp only [FollowsAt, leaving, hresult]
    show rule.Accepts parser value _
    exact hat
  | error error stuck =>
    rw [FollowsAt, hresult] at hat
    simp only [FollowsAt, leaving, hresult]
    show rule.Rejects parser.ahead error
    exact hat

/-- Reading nothing follows the rule that derives nothing. -/
theorem pure_follows (value : α) : Follows (pure value) (.pure value) := by
  intro parser
  show (Rule.pure value).Accepts parser value parser
  refine ⟨[], rfl, Nat.le_refl _, ⟨rfl, rfl⟩, ?_⟩
  intro ahead other value' rest _ ⟨hother, hvalue⟩ _ _
  exact ⟨hother.symm, hvalue.symm⟩

/-- A parser that is ready reads a token that is accepted. -/
theorem advance_follows {accept : Token → Bool} (hinhabited : ∃ token, accept token = true)
    {parser : Parser} (hready : parser.Ready)
    (haccepted : parser.ahead.tokens.head?.any accept = true) :
    FollowsAt advance (.token accept hinhabited) parser := by
  obtain ⟨token, htoken, haccept⟩ := (Option.any_eq_true _ _).1 haccepted
  obtain ⟨behind, hadvance, hahead, hlt⟩ := advance_ready hready htoken
  rw [FollowsAt, hadvance]
  show (Rule.token accept hinhabited).Accepts parser token behind
  refine ⟨[token], hahead, hlt, ⟨rfl, haccept⟩, ?_⟩
  intro ahead other value rest _ ⟨hother, _⟩ _ heq
  rw [hother] at heq ⊢
  obtain ⟨rfl, -⟩ : token = value ∧ ahead = rest := by simpa using heq
  exact ⟨rfl, rfl⟩

/-- A parser that is ready refuses a token that is not accepted, and the end. -/
theorem unexpected_follows {accept : Token → Bool} (hinhabited : ∃ token, accept token = true)
    {parser : Parser} (hready : parser.Ready) (expected : Expectation)
    (hrefused : parser.ahead.tokens.head?.any accept = false) :
    FollowsAt (unexpected expected) (.token accept hinhabited) parser := by
  have hviable : (Rule.token accept hinhabited).Viable [] :=
    (Rule.token accept hinhabited).productive
  rcases unexpected_ready (α := Token) hready expected with
    ⟨token, rest, htokens, hresult⟩ | ⟨location, hahead, hresult⟩
  · rw [FollowsAt, hresult]
    show (Rule.token accept hinhabited).Rejects parser.ahead (.unexpectedToken expected token)
    have htokens' : parser.ahead.tokens = [] ++ token :: rest := htokens
    refine .token htokens' hviable ?_
    intro other value rest ⟨hother, haccept⟩ _ ⟨more, heq⟩
    rw [hother] at heq
    obtain ⟨rfl, -⟩ : token = value ∧ more = rest := by simpa using heq
    rw [htokens, List.head?_cons, Option.any_some, haccept] at hrefused
    exact absurd hrefused (by simp)
  · rw [FollowsAt, hresult, hahead]
    show (Rule.token accept hinhabited).Rejects ⟨[], .finished location⟩
      (.unexpectedEnd expected location)
    refine .finished rfl hviable ?_
    intro other value rest ⟨hother, _⟩ _ heq
    rw [hother] at heq
    exact absurd heq (by simp)

/-- Expecting a token follows the rule of that token. -/
theorem expect_follows (accept : Token → Bool) (expected : Expectation)
    (hinhabited : ∃ token, accept token = true) :
    Follows (expect accept expected) (.token accept hinhabited) := by
  intro parser
  rcases nextIs_decides accept parser with
    ⟨ready, htest, hready, hahead, hle⟩ | ⟨error, stuck, htest, hahead⟩
  · rw [← hahead] at htest
    cases haccept : ready.ahead.tokens.head?.any accept with
    | true =>
      refine (advance_follows hinhabited hready haccept).of_ahead ?_ hahead hle
      simp [expect, bind_ok htest, haccept]
    | false =>
      refine (unexpected_follows hinhabited hready expected haccept).of_ahead ?_ hahead hle
      simp [expect, bind_ok htest, haccept]
  · rw [FollowsAt, expect, bind_error htest, hahead]
    exact .failed rfl (Rule.token accept hinhabited).productive

section bind

variable {first : Rule α} {next : α → Rule β}
  (hbetween : ∀ middle back value rest, (next middle).phrase back value →
    (∀ middle, (next middle).follow rest.head?) → first.follow (back ++ rest).head?)

/-- What the first rule may begin with, the two rules together may. -/
theorem viable_bind_left {tokens : List Token} (h : first.Viable tokens) :
    (first.bind next).Viable tokens := by
  obtain ⟨rest, middle, hfront⟩ := h
  obtain ⟨back, value, hback⟩ := (next middle).productive
  exact ⟨rest ++ back, value, middle, _, back, hfront, hback, by simp⟩

/-- A phrase of the first rule and what the second may begin with begin the two together. -/
theorem viable_bind_right {front tokens : List Token} {middle : α}
    (hfront : first.phrase front middle) (h : (next middle).Viable tokens) :
    (first.bind next).Viable (front ++ tokens) := by
  obtain ⟨rest, value, hback⟩ := h
  exact ⟨rest, value, middle, front, _, hfront, hback, by simp⟩

include hbetween

/-- What is wrong with the first part of a sequence is wrong with the sequence. -/
theorem rejects_bind_left {ahead : Ahead} {error : SyntaxError} (h : first.Rejects ahead error) :
    (first.bind next).Rejects ahead error := by
  cases h with
  | token htokens hviable hrefuses =>
    refine .token htokens (viable_bind_left hviable) ?_
    intro _ value rest ⟨middle, front, back, hfront, hback, hother⟩ hfollow
    rw [hother, List.append_assoc]
    exact hrefuses front middle _ hfront (hbetween middle back value rest hback hfollow)
  | finished hending hviable hrefuses =>
    refine .finished hending (viable_bind_left hviable) ?_
    intro _ value rest ⟨middle, front, back, hfront, hback, hother⟩ hfollow
    rw [hother, List.append_assoc]
    exact hrefuses front middle _ hfront (hbetween middle back value rest hback hfollow)
  | failed hending hviable => exact .failed hending (viable_bind_left hviable)
  | excess htokens hnonempty hviable hexcess hrefuses =>
    refine .excess htokens hnonempty (viable_bind_left hviable) (.inl hexcess) ?_
    intro _ value rest ⟨middle, front, back, hfront, hback, hother⟩ hfollow
    rw [hother, List.append_assoc]
    exact hrefuses front middle _ hfront
      (hbetween middle back value rest ((next middle).phrase_of_limited hback) hfollow)

/-- Once the first part of a sequence is settled, every phrase of the sequence at this place begins
with it. -/
theorem settles_front {front ahead front' back rest : List Token} {middle middle' : α} {value : β}
    (hsettles : first.Settles front middle ahead.head?) (hfront : first.phrase front' middle')
    (hback : (next middle').phrase back value) (hfollow : (first.bind next).follow rest.head?)
    (heq : front ++ ahead = front' ++ back ++ rest) :
    front = front' ∧ middle = middle' ∧ ahead = back ++ rest := by
  rw [List.append_assoc] at heq
  obtain ⟨rfl, rfl⟩ := hsettles ahead front' middle' _ rfl hfront
    (hbetween middle' back value rest hback hfollow) heq
  exact ⟨rfl, rfl, List.append_cancel_left heq⟩

/-- What is wrong with the second part of a sequence, behind the first one, is wrong with the
sequence. -/
theorem rejects_bind_right {ahead : Ahead} {front : List Token} {middle : α} {error : SyntaxError}
    (hfront : first.limited front middle)
    (hsettles : first.Settles front middle ahead.tokens.head?)
    (h : (next middle).Rejects ahead error) :
    (first.bind next).Rejects (ahead.behind front) error := by
  have hphrase := first.phrase_of_limited hfront
  cases h with
  | @token expected token before after htokens hviable hrefuses =>
    have htokens' : (ahead.behind front).tokens = (front ++ before) ++ token :: after := by
      simp [htokens]
    refine .token htokens' (viable_bind_right hphrase hviable) ?_
    intro _ value rest ⟨middle', front', back, hfront', hback, hother⟩ hfollow ⟨more, heq⟩
    rw [hother] at heq
    -- The refused beginning shows what is next behind the first part, which settles that part.
    have hthrough : ahead.tokens = (before ++ [token]) ++ after := by simp [htokens]
    have hhead := head?_append_of_eq_append more hthrough (by simp)
    rw [← hhead] at hsettles
    obtain ⟨-, rfl, hrest⟩ := settles_front hbetween hsettles hfront' hback hfollow
      (by simpa using heq)
    exact hrefuses back value rest hback (hfollow middle) ⟨more, hrest⟩
  | finished hending hviable hrefuses =>
    refine .finished hending (viable_bind_right hphrase hviable) ?_
    intro _ value rest ⟨middle', front', back, hfront', hback, hother⟩ hfollow heq
    rw [hother] at heq
    obtain ⟨-, rfl, hrest⟩ := settles_front hbetween hsettles hfront' hback hfollow heq
    exact hrefuses back value rest hback (hfollow middle) hrest
  | failed hending hviable => exact .failed hending (viable_bind_right hphrase hviable)
  | @excess _ before after htokens hnonempty hviable hexcess hrefuses =>
    have htokens' : (ahead.behind front).tokens = (front ++ before) ++ after := by simp [htokens]
    refine .excess htokens' (by simp [hnonempty]) (viable_bind_right hphrase hviable)
      (.inr ⟨middle, front, before, hfront, hexcess, rfl⟩) ?_
    intro _ value rest ⟨middle', front', back, hfront', hback, hother⟩ hfollow ⟨more, heq⟩
    rw [hother] at heq
    have hhead := head?_append_of_eq_append more htokens hnonempty
    rw [← hhead] at hsettles
    obtain ⟨-, rfl, hrest⟩ := settles_front hbetween hsettles (first.phrase_of_limited hfront')
      ((next middle').phrase_of_limited hback) hfollow (by simpa using heq)
    exact hrefuses back value rest hback (hfollow middle) ⟨more, hrest⟩

/-- One action and then another follow one rule and then another. -/
theorem FollowsAt.bind {action : Parse α} {continuation : α → Parse β} {parser : Parser}
    (hfirst : FollowsAt action first parser)
    (hnext : ∀ middle behind, action parser = .ok middle behind →
      FollowsAt (continuation middle) (next middle) behind) :
    FollowsAt (action >>= continuation) (first.bind next) parser := by
  cases hresult : action parser with
  | error error stuck =>
    rw [FollowsAt, hresult] at hfirst
    rw [FollowsAt, bind_error hresult]
    exact rejects_bind_left hbetween hfirst
  | ok middle behind =>
    have hsecond := hnext middle behind hresult
    rw [FollowsAt, hresult] at hfirst
    rw [FollowsAt, bind_ok hresult]
    unfold FollowsAt at hsecond
    obtain ⟨front, hahead, hle, hlimited, hsettles⟩ := hfirst
    split at hsecond
    · next value last hlast =>
      obtain ⟨back, hahead', hle', hlimited', hsettles'⟩ := hsecond
      rw [hahead'] at hahead hsettles
      show (first.bind next).Accepts parser value last
      refine ⟨front ++ back, by simpa using hahead, by simp; omega,
        ⟨middle, front, back, hlimited, hlimited', rfl⟩, ?_⟩
      intro ahead _ value' rest hhead ⟨middle', front', back', hfront', hback', hother⟩ hfollow heq
      rw [hother] at heq ⊢
      -- What is next behind the first part is the beginning of the second one, or, if that is
      -- empty, what is next behind both.
      have hhead' : (back ++ ahead).head? = (last.ahead.behind back).tokens.head? := by
        cases back <;> simp [hhead]
      rw [← hhead'] at hsettles
      obtain ⟨rfl, rfl, hrest⟩ := settles_front hbetween hsettles hfront' hback' hfollow
        (by simpa using heq)
      obtain ⟨rfl, rfl⟩ := hsettles' ahead back' value' rest hhead hback' (hfollow middle) hrest
      exact ⟨rfl, rfl⟩
    · rw [hahead]
      exact rejects_bind_right hbetween hlimited hsettles hsecond

end bind

/-- One action and then another follow one rule and then another, if anything may stand behind the
phrases of the first. -/
theorem Follows.bind {action : Parse α} {continuation : α → Parse β} {first : Rule α}
    {next : α → Rule β} (hfree : ∀ o, first.follow o) (hfirst : Follows action first)
    (hnext : ∀ middle, Follows (continuation middle) (next middle)) :
    Follows (action >>= continuation) (first.bind next) :=
  fun parser => .bind (fun _ _ _ _ _ _ => hfree _) (hfirst parser) fun middle behind _ =>
    hnext middle behind

/-- Choosing one of two actions by the next token follows the choice of their rules, if the token
tells the phrases apart. -/
theorem FollowsAt.choice {check : Parse Bool} {test : Option Token → Bool}
    (hcheck : Decides check test) {left right : Parse α} {leftRule rightRule : Rule α}
    {follow : Option Token → Prop} {parser : Parser}
    (hleft : ∀ ready : Parser, ready.Ready → ready.ahead = parser.ahead →
      ready.allowance ≤ parser.allowance → test ready.ahead.tokens.head? = true →
      FollowsAt left leftRule ready)
    (hright : ∀ ready : Parser, ready.Ready → ready.ahead = parser.ahead →
      ready.allowance ≤ parser.allowance → test ready.ahead.tokens.head? = false →
      FollowsAt right rightRule ready)
    (hfollow : ∀ o, follow o → leftRule.follow o ∧ rightRule.follow o)
    (htrue : ∀ tokens value rest, leftRule.phrase tokens value → follow rest.head? →
      test (tokens ++ rest).head? = true)
    (hfalse : ∀ tokens value rest, rightRule.phrase tokens value → follow rest.head? →
      test (tokens ++ rest).head? = false) :
    FollowsAt (do if ← check then left else right) (leftRule.choice rightRule follow) parser := by
  rcases hcheck parser with ⟨ready, htest, hready, hahead, hle⟩ | ⟨error, stuck, htest, hahead⟩
  · rw [← hahead] at htest
    cases hresult : test ready.ahead.tokens.head? with
    | true =>
      have hnarrows := Rule.narrows_choice_left (fun o ho => (hfollow o ho).1) hfalse hresult
      exact ((hleft ready hready hahead hle hresult).widen hnarrows).of_ahead
        (by simp [bind_ok htest, hresult]) hahead hle
    | false =>
      have hnarrows := Rule.narrows_choice_right (fun o ho => (hfollow o ho).2) htrue hresult
      exact ((hright ready hready hahead hle hresult).widen hnarrows).of_ahead
        (by simp [bind_ok htest, hresult]) hahead hle
  · rw [FollowsAt, bind_error htest, hahead]
    exact .failed rfl (leftRule.choice rightRule follow).productive

/-- Choosing one of two actions by the next token follows the choice of their rules, if the token
tells the phrases apart. -/
theorem Follows.choice {accept : Token → Bool} {left right : Parse α} {leftRule rightRule : Rule α}
    {follow : Option Token → Prop} (hleft : Follows left leftRule)
    (hright : Follows right rightRule)
    (hfollow : ∀ o, follow o → leftRule.follow o ∧ rightRule.follow o)
    (htrue : ∀ tokens value rest, leftRule.phrase tokens value → follow rest.head? →
      (tokens ++ rest).head?.any accept = true)
    (hfalse : ∀ tokens value rest, rightRule.phrase tokens value → follow rest.head? →
      (tokens ++ rest).head?.any accept = false) :
    Follows (do if ← nextIs accept then left else right) (leftRule.choice rightRule follow) :=
  fun _ => .choice (nextIs_decides accept) (fun ready _ _ _ _ => hleft ready)
    (fun ready _ _ _ _ => hright ready) hfollow htrue hfalse

/-- Going on behind the next token if it is accepted follows the choice between that and the rule of
what is done otherwise. -/
theorem Follows.choice_advance {accept : Token → Bool} (hinhabited : ∃ token, accept token = true)
    {continuation : Token → Parse α} {right : Parse α} {next : Token → Rule α} {rightRule : Rule α}
    {follow : Option Token → Prop} (hnext : ∀ token, Follows (continuation token) (next token))
    (hright : Follows right rightRule)
    (hfollow : ∀ o, follow o → (∀ token, (next token).follow o) ∧ rightRule.follow o)
    (hfalse : ∀ tokens value rest, rightRule.phrase tokens value → follow rest.head? →
      (tokens ++ rest).head?.any accept = false) :
    Follows (do if ← nextIs accept then continuation (← advance) else right)
      (((Rule.token accept hinhabited).bind next).choice rightRule follow) := by
  intro parser
  refine .choice (nextIs_decides accept) ?_ (fun ready _ _ _ _ => hright ready) hfollow ?_ hfalse
  · intro ready hready _ _ hresult
    exact .bind (fun _ _ _ _ _ _ => trivial) (advance_follows hinhabited hready hresult)
      fun token behind _ => hnext token behind
  · intro tokens value rest hphrase _
    obtain ⟨token, _, haccept, -, rfl⟩ := Rule.sequence_single.1 hphrase
    simpa using haccept

/-- Changing what was read follows the changed rule. -/
theorem FollowsAt.map {action : Parse α} {rule : Rule α} {parser : Parser}
    (h : FollowsAt action rule parser) (change : α → β) :
    FollowsAt (do return change (← action)) (rule.map change) parser := by
  unfold FollowsAt at h
  split at h
  · next value behind hresult =>
    obtain ⟨taken, hahead, hle, hlimited, hsettles⟩ := h
    rw [FollowsAt, bind_ok hresult]
    show (rule.map change).Accepts parser (change value) behind
    refine ⟨taken, hahead, hle, ⟨value, hlimited, rfl⟩, ?_⟩
    intro ahead other _ rest hhead ⟨original, horiginal, hchanged⟩ hfollow heq
    obtain ⟨rfl, rfl⟩ := hsettles ahead other original rest hhead horiginal hfollow heq
    exact ⟨rfl, hchanged.symm⟩
  · next error stuck hresult =>
    rw [FollowsAt, bind_error hresult]
    show (rule.map change).Rejects parser.ahead error
    exact Rule.rejects_map change h

/-- An action that gives up behind a first part follows a rule that is broken there: a limit of the
rule is exceeded by every first part, and phrases within the limits begin with none. -/
theorem Follows.overrun {action : Parse α} {error : α → SyntaxError} {first : Rule α}
    {rule : Rule β} (hfree : ∀ o, first.follow o) (hfirst : Follows action first)
    (hexcessFirst : ∀ tokens error, ¬ first.excess tokens error)
    (hfront : ∀ tokens value, rule.phrase tokens value →
      ∃ front middle back, first.phrase front middle ∧ tokens = front ++ back)
    (hextend : ∀ front middle, first.phrase front middle → front ≠ [] ∧ rule.Viable front)
    (hexcess : ∀ front middle, first.limited front middle → rule.excess front (error middle))
    (hempty : ∀ tokens value, ¬ rule.limited tokens value) :
    Follows (do throw (error (← action)) : Parse β) rule := by
  have hviable : ∀ tokens, first.Viable tokens → rule.Viable tokens := by
    intro tokens ⟨rest, middle, hphrase⟩
    obtain ⟨-, more, value, hvalue⟩ := hextend _ _ hphrase
    exact ⟨rest ++ more, value, by simpa using hvalue⟩
  intro parser
  have h := hfirst parser
  unfold FollowsAt at h
  split at h
  · next middle behind hresult =>
    obtain ⟨taken, hahead, -, hlimited, -⟩ := h
    obtain ⟨hnonempty, htaken⟩ := hextend _ _ (first.phrase_of_limited hlimited)
    rw [FollowsAt, bind_ok hresult]
    show rule.Rejects parser.ahead (error middle)
    exact .excess (by rw [hahead]; rfl) hnonempty htaken (hexcess _ _ hlimited)
      fun other value _ hother => absurd hother (hempty other value)
  · next stuck hresult =>
    rw [FollowsAt, bind_error hresult]
    exact Rule.rejects_of_front hfree hexcessFirst hfront hviable h

/-- Whenever an action succeeds, less is left to read behind it. -/
def Progresses (action : Parse α) : Prop :=
  ∀ (ready : Parser) (value : α) (behind : Parser), action ready = .ok value behind →
    behind.allowance < ready.allowance

/-- An action that reads phrases of at least one token progresses. -/
theorem Follows.progresses {action : Parse α} {rule : Rule α} (h : Follows action rule)
    (hnonempty : ∀ tokens value, rule.phrase tokens value → tokens ≠ []) : Progresses action := by
  intro ready value behind hvalue
  have hat := h ready
  rw [FollowsAt, hvalue] at hat
  obtain ⟨taken, -, hless, hlimited, -⟩ := hat
  have hlength := List.length_pos_iff.2 (hnonempty _ _ (rule.phrase_of_limited hlimited))
  omega

section rounds

variable {stop : Parse Bool} {action : Parse (Option α)} {found : List α}
  {parser ready behind stuck : Parser} {value : Option α} {error : SyntaxError}

/-- Collecting fails where it cannot tell whether to stop. -/
theorem collectFrom_of_stuck (h : stop parser = .error error stuck) :
    collectFrom stop action found parser = .error error stuck := by
  rw [collectFrom, h]

/-- Collecting stops with what was found. -/
theorem collectFrom_of_end (h : stop parser = .ok true ready) :
    collectFrom stop action found parser = .ok found.reverse ready := by
  rw [collectFrom, h]

/-- Collecting fails where the action fails. -/
theorem collectFrom_of_error (h : stop parser = .ok false ready)
    (herror : action ready = .error error stuck) :
    collectFrom stop action found parser = .error error stuck := by
  rw [collectFrom, h]
  simp only [herror]

/-- Collecting goes on behind what the action reads, if less is left to read there. -/
theorem collectFrom_of_value (h : stop parser = .ok false ready)
    (hvalue : action ready = .ok value behind) (hlt : behind.allowance < parser.allowance) :
    collectFrom stop action found parser =
      collectFrom stop action (value.toList ++ found) behind := by
  rw [collectFrom, h]
  simp only [hvalue, if_pos hlt]

end rounds

section collect

variable {stop : Parse Bool} {test : Option Token → Bool} {action : Parse (Option α)}
  {rule : Rule (Option α)} {follow : Option Token → Prop}
  (hstop : Decides stop test) (haction : Follows action rule)
  (hfirst : ∀ tokens value, rule.phrase tokens value →
    ∃ first rest, tokens = first :: rest ∧ test (some first) = false ∧ rule.follow (some first))
  (hfollow : ∀ o, follow o → test o = true ∧ rule.follow o)

include haction hfirst in
/-- What is collected is made of tokens. -/
theorem progresses_of_first : Progresses action := by
  refine haction.progresses fun tokens value hphrase => ?_
  obtain ⟨first, rest, rfl, -⟩ := hfirst _ _ hphrase
  exact List.cons_ne_nil first rest

omit haction hfirst in
include hstop in
/-- As long as what is collected progresses, collecting is choosing again and again whether to
stop. -/
theorem collectFrom_eq (hprogress : Progresses action) (found : List α) (parser : Parser) :
    collectFrom stop action found parser =
      (do if ← stop then pure found.reverse
          else collectFrom stop action ((← action).toList ++ found)) parser := by
  rcases hstop parser with ⟨ready, htest, -, -, hle⟩ | ⟨error, stuck, htest, -⟩
  · rw [bind_ok htest]
    cases hresult : test parser.ahead.tokens.head? with
    | true =>
      rw [hresult] at htest
      exact collectFrom_of_end htest
    | false =>
      rw [hresult] at htest
      cases hvalue : action ready with
      | error error stuck =>
        rw [collectFrom_of_error htest hvalue]
        symm
        exact bind_error hvalue
      | ok value behind =>
        rw [collectFrom_of_value htest hvalue (Nat.lt_of_lt_of_le (hprogress _ _ _ hvalue) hle)]
        symm
        exact bind_ok hvalue
  · rw [collectFrom_of_stuck htest, bind_error htest]

include hfirst hfollow in
/-- What stands behind a phrase of a repetition may stand there. -/
theorem follow_many {tokens rest : List Token} {values : List α}
    (h : Rule.Many rule.phrase tokens values) (hrest : follow rest.head?) :
    rule.follow (tokens ++ rest).head? := by
  cases h with
  | nil => exact (hfollow _ hrest).2
  | cons hphrase _ =>
    obtain ⟨first, _, rfl, -, hnext⟩ := hfirst _ _ hphrase
    exact hnext

/-- A repetition is a choice: to stop, or to have a further phrase and then the rest. -/
theorem many_unfold (rule : Rule (Option α)) (follow : Option Token → Prop) (found : List α)
    (next : Option Token) :
    ((Rule.pure found.reverse).choice (rule.bind fun value =>
      (rule.many follow).map ((value.toList ++ found).reverse ++ ·)) follow).Narrows
        ((rule.many follow).map (found.reverse ++ ·)) next := by
  have hreverse : ∀ value : Option α,
      (value.toList ++ found).reverse = found.reverse ++ value.toList := by
    intro value
    cases value <;> simp
  -- Once for the phrases and once for those within the limits.
  have hunfold : ∀ (phrase : List Token → Option α → Prop) tokens values,
      ((tokens = [] ∧ values = found.reverse) ∨ ∃ value front back, phrase front value ∧
        (∃ others, Rule.Many phrase back others ∧
          values = (value.toList ++ found).reverse ++ others) ∧ tokens = front ++ back) ↔
      ∃ others, Rule.Many phrase tokens others ∧ values = found.reverse ++ others := by
    intro phrase tokens values
    constructor
    · intro h
      rcases h with ⟨rfl, rfl⟩ | ⟨value, front, back, hfront, ⟨others, hback, rfl⟩, rfl⟩
      · exact ⟨[], .nil, by simp⟩
      · exact ⟨_, .cons hfront hback, by rw [hreverse, List.append_assoc]⟩
    · intro ⟨_, hmany, hvalues⟩
      subst hvalues
      cases hmany with
      | nil => exact .inl ⟨rfl, by simp⟩
      | cons hfront hback =>
        exact .inr ⟨_, _, _, hfront, ⟨_, hback, by rw [hreverse, List.append_assoc]⟩, rfl⟩
  refine Rule.narrows_of_iff next (hunfold rule.phrase) (hunfold rule.limited) (fun _ h => h) ?_
  intro tokens error h
  rcases h with h | h | ⟨value, front, back, hfront, ⟨values, more, last, hmore, hlast, rfl⟩, rfl⟩
  · exact h.elim
  · exact ⟨[], [], tokens, .nil, h, rfl⟩
  · exact ⟨_, front ++ more, last, .cons hfront hmore, hlast, by simp⟩

include hstop haction hfirst hfollow in
/-- Collecting follows the repetition of a rule behind what was found before. -/
theorem collectFrom_follows (found : List α) (parser : Parser) :
    FollowsAt (collectFrom stop action found)
      ((rule.many follow).map (found.reverse ++ ·)) parser := by
  -- Every round reads a token, so the induction is on how much there is left to read.
  induction hallowance : parser.allowance using Nat.strongRecOn generalizing found parser with
  | ind _ ih =>
    refine FollowsAt.of_ahead (FollowsAt.widen ?_ (many_unfold rule follow found _))
      (collectFrom_eq hstop (progresses_of_first haction hfirst) found parser) rfl (Nat.le_refl _)
    refine .choice hstop (fun ready _ _ _ _ => pure_follows found.reverse ready)
      (fun ready _ _ hle _ => .bind ?_ (haction ready) ?_)
      (fun o ho => ⟨trivial, fun _ => ho⟩) ?_ ?_
    · intro middle back _ rest ⟨values, hvalues, _⟩ hrest
      exact follow_many hfirst hfollow hvalues (hrest middle)
    · intro value behind hvalue
      have hlt := progresses_of_first haction hfirst _ _ _ hvalue
      exact ih behind.allowance (by omega) (value.toList ++ found) behind rfl
    · intro tokens value rest ⟨htokens, _⟩ hrest
      rw [htokens]
      exact (hfollow _ hrest).1
    · intro tokens value rest ⟨middle, front, back, hfront, _, htokens⟩ _
      obtain ⟨first, _, rfl, htest, -⟩ := hfirst _ _ hfront
      rw [htokens]
      exact htest

include hstop haction hfirst hfollow in
/-- Collecting follows the repetition of a rule, if the test tells the phrases of the rule from what
stands behind the repetition. -/
theorem collect_follows : Follows (collect stop action) (rule.many follow) := by
  intro parser
  refine (collectFrom_follows hstop haction hfirst hfollow [] parser).widen ?_
  exact Rule.narrows_of_iff _ (fun _ _ => by simp [Rule.map, Rule.Changed])
    (fun _ _ => by simp [Rule.map, Rule.Changed])
    (fun _ h => h) (fun _ _ h => h)

include hstop haction hfirst in
/-- Collecting stops at a place that the test holds at. -/
theorem collectFrom_ends {found values : List α} {parser behind : Parser}
    (h : collectFrom stop action found parser = .ok values behind) :
    behind.Ready ∧ test behind.ahead.tokens.head? = true := by
  induction hallowance : parser.allowance using Nat.strongRecOn generalizing found parser with
  | ind _ ih =>
    rw [collectFrom_eq hstop (progresses_of_first haction hfirst)] at h
    rcases hstop parser with ⟨ready, htest, hready, hahead, hle⟩ | ⟨error, stuck, htest, -⟩
    · rw [bind_ok htest] at h
      cases hresult : test parser.ahead.tokens.head? with
      | true =>
        rw [hresult] at h
        obtain ⟨-, rfl⟩ : found.reverse = values ∧ ready = behind := EStateM.Result.ok.inj h
        exact ⟨hready, by rw [hahead, hresult]⟩
      | false =>
        rw [hresult] at h
        cases hvalue : action ready with
        | ok value middle =>
          have hlt := progresses_of_first haction hfirst _ _ _ hvalue
          have hrest : collectFrom stop action (value.toList ++ found) middle = .ok values behind :=
            (bind_ok hvalue).symm.trans h
          exact ih middle.allowance (by omega) hrest rfl
        | error error stuck => exact absurd ((bind_error hvalue).symm.trans h) (by simp)
    · rw [bind_error htest] at h
      exact absurd h (by simp)

end collect

end Parse

end VinylSyntax
