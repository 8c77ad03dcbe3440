import VinylSyntax.Proofs.Ahead

/-!
# Rules

A rule says which tokens it derives, what they are read as, and what may stand behind them. From it
follows what a parser that reads by the rule has to do: `Rule.Accepts` says what it may take off the
tokens ahead, and `Rule.Rejects` which error is right where no phrase of the rule is ahead. Rules
are made of smaller ones by sequence, choice and repetition.
-/

namespace VinylSyntax

/-- A rule of a grammar: the tokens that it derives and what they are read as, without limits and
within the limits; what may stand behind them, a token or the end; and the tokens that break a
limit, with the error that is due. -/
structure Rule (α : Type) where
  phrase : List Token → α → Prop
  limited : List Token → α → Prop
  follow : Option Token → Prop
  excess : List Token → SyntaxError → Prop
  phrase_of_limited : ∀ {tokens value}, limited tokens value → phrase tokens value
  productive : ∃ tokens value, phrase tokens value

/-- The first token of a beginning that is not empty is that of the whole. -/
theorem head?_append_of_eq_append {tokens before after : List Token} (more : List Token)
    (h : tokens = before ++ after) (hnonempty : before ≠ []) :
    (before ++ more).head? = tokens.head? := by
  obtain ⟨first, rest, rfl⟩ := List.exists_cons_of_ne_nil hnonempty
  simp [h]

namespace Rule

variable {α β : Type}

/-- Some phrase of the rule begins with the tokens. -/
def Viable (rule : Rule α) (tokens : List Token) : Prop :=
  ∃ rest value, rule.phrase (tokens ++ rest) value

/-- No phrase, with something behind it that may stand there, begins with the tokens. -/
def Refuses (rule : Rule α) (phrase : List Token → α → Prop) (tokens : List Token) : Prop :=
  ∀ other value rest, phrase other value → rule.follow rest.head? → ¬ tokens <+: other ++ rest

/-- Tokens in front of `next` can only be read in one way: every phrase at the same place, with
something behind it that may stand there, is this one. -/
def Settles (rule : Rule α) (taken : List Token) (value : α) (next : Option Token) : Prop :=
  ∀ ahead other value' rest, ahead.head? = next → rule.phrase other value' →
    rule.follow rest.head? → taken ++ ahead = other ++ rest → taken = other ∧ value = value'

/-- A parser that has read `value` took a phrase of the rule off what was ahead of it. -/
def Accepts (rule : Rule α) (parser : Parser) (value : α) (behind : Parser) : Prop :=
  ∃ taken, parser.ahead = behind.ahead.behind taken ∧
    behind.allowance + taken.length ≤ parser.allowance ∧ rule.limited taken value ∧
    rule.Settles taken value behind.ahead.tokens.head?

/-- An error is right for what is ahead, which does not begin with a phrase of the rule. -/
inductive Rejects (rule : Rule α) (ahead : Ahead) : SyntaxError → Prop where
  /-- A token is the first that no phrase has at its place. -/
  | token {expected : Expectation} {token : Token} {before after : List Token}
      (htokens : ahead.tokens = before ++ token :: after) (hviable : rule.Viable before)
      (hrefuses : rule.Refuses rule.phrase (before ++ [token])) :
      Rejects rule ahead (.unexpectedToken expected token)
  /-- The text ends in the middle of a phrase. -/
  | finished {expected : Expectation} {location : Location}
      (hending : ahead.ending = .finished location) (hviable : rule.Viable ahead.tokens)
      (hrefuses : ∀ other value rest, rule.phrase other value → rule.follow rest.head? →
        ahead.tokens ≠ other ++ rest) :
      Rejects rule ahead (.unexpectedEnd expected location)
  /-- The lexer fails where a phrase could go on. -/
  | failed {error : LexicalError} (hending : ahead.ending = .failed error)
      (hviable : rule.Viable ahead.tokens) : Rejects rule ahead (.lexical error)
  /-- A limit is broken within a phrase. -/
  | excess {error : SyntaxError} {before after : List Token}
      (htokens : ahead.tokens = before ++ after) (hnonempty : before ≠ [])
      (hviable : rule.Viable before) (hexcess : rule.excess before error)
      (hrefuses : rule.Refuses rule.limited before) : Rejects rule ahead error

/-- One token that is accepted is read as itself. -/
def Single (accept : Token → Bool) (tokens : List Token) (value : Token) : Prop :=
  tokens = [value] ∧ accept value = true

/-- No tokens are read as a certain value. -/
def Nothing (value : α) (tokens : List Token) (value' : α) : Prop := tokens = [] ∧ value' = value

/-- Tokens are read one way, and what was read is changed by a function. -/
def Changed (change : α → β) (phrase : List Token → α → Prop) (tokens : List Token) (value : β) :
    Prop :=
  ∃ original, phrase tokens original ∧ value = change original

/-- Tokens are read one way and then another, which may depend on what was read first. -/
def Sequence (first : List Token → α → Prop) (next : α → List Token → β → Prop)
    (tokens : List Token) (value : β) : Prop :=
  ∃ middle front back, first front middle ∧ next middle back value ∧ tokens = front ++ back

/-- A single token in front of what follows is the first of all tokens. -/
theorem sequence_single {accept : Token → Bool} {next : Token → List Token → β → Prop}
    {tokens : List Token} {value : β} :
    Sequence (Single accept) next tokens value ↔
      ∃ token rest, accept token = true ∧ next token rest value ∧ tokens = token :: rest := by
  constructor
  · intro ⟨token, _, rest, ⟨hfront, haccept⟩, hnext, htokens⟩
    exact ⟨token, rest, haccept, hnext, by rw [htokens, hfront]; rfl⟩
  · intro ⟨token, rest, haccept, hnext, htokens⟩
    exact ⟨token, [token], rest, ⟨rfl, haccept⟩, hnext, htokens⟩

/-- What is changed in front of what follows can be changed when it is handed on. -/
theorem sequence_changed {γ : Type} {change : α → γ} {phrase : List Token → α → Prop}
    {next : γ → List Token → β → Prop} {tokens : List Token} {value : β} :
    Sequence (Changed change phrase) next tokens value ↔
      Sequence phrase (fun original => next (change original)) tokens value := by
  constructor
  · intro ⟨_, front, back, ⟨original, hfront, rfl⟩, hnext, htokens⟩
    exact ⟨original, front, back, hfront, hnext, htokens⟩
  · intro ⟨original, front, back, hfront, hnext, htokens⟩
    exact ⟨change original, front, back, ⟨original, hfront, rfl⟩, hnext, htokens⟩

/-- The rule of a single token. -/
def token (accept : Token → Bool) (hinhabited : ∃ token, accept token = true) : Rule Token where
  phrase := Single accept
  limited := Single accept
  follow _ := True
  excess _ _ := False
  phrase_of_limited h := h
  productive := hinhabited.imp' (fun token => [token]) fun token h => ⟨token, rfl, h⟩

/-- The rule that derives nothing. -/
def pure (value : α) : Rule α where
  phrase := Nothing value
  limited := Nothing value
  follow _ := True
  excess _ _ := False
  phrase_of_limited h := h
  productive := ⟨[], value, rfl, rfl⟩

/-- One rule behind another, which may depend on what the first one read. -/
def bind (first : Rule α) (next : α → Rule β) : Rule β where
  phrase := Sequence first.phrase fun middle => (next middle).phrase
  limited := Sequence first.limited fun middle => (next middle).limited
  follow o := ∀ middle, (next middle).follow o
  excess tokens error := first.excess tokens error ∨ ∃ middle front back,
    first.limited front middle ∧ (next middle).excess back error ∧ tokens = front ++ back
  phrase_of_limited := by
    intro _ _ ⟨middle, front, back, hfront, hback, htokens⟩
    exact ⟨middle, front, back, first.phrase_of_limited hfront,
      (next middle).phrase_of_limited hback, htokens⟩
  productive := by
    obtain ⟨front, middle, hfront⟩ := first.productive
    obtain ⟨back, value, hback⟩ := (next middle).productive
    exact ⟨_, value, middle, front, back, hfront, hback, rfl⟩

/-- One of two rules. -/
def choice (left right : Rule α) (follow : Option Token → Prop) : Rule α where
  phrase tokens value := left.phrase tokens value ∨ right.phrase tokens value
  limited tokens value := left.limited tokens value ∨ right.limited tokens value
  follow := follow
  excess tokens error := left.excess tokens error ∨ right.excess tokens error
  phrase_of_limited h := h.imp left.phrase_of_limited right.phrase_of_limited
  productive := left.productive.imp fun _ => .imp fun _ => .inl

/-- The rule with what it reads changed by a function. -/
def map (change : α → β) (rule : Rule α) : Rule β where
  phrase := Changed change rule.phrase
  limited := Changed change rule.limited
  follow := rule.follow
  excess := rule.excess
  phrase_of_limited := by
    intro _ _ ⟨original, horiginal, hvalue⟩
    exact ⟨original, rule.phrase_of_limited horiginal, hvalue⟩
  productive := by
    obtain ⟨tokens, original, horiginal⟩ := rule.productive
    exact ⟨tokens, _, original, horiginal, rfl⟩

/-- Phrases one behind the other, some of which may be read as nothing. -/
inductive Many (phrase : List Token → Option α → Prop) : List Token → List α → Prop where
  | nil : Many phrase [] []
  | cons {tokens rest : List Token} {value : Option α} {values : List α}
      (hphrase : phrase tokens value) (hrest : Many phrase rest values) :
      Many phrase (tokens ++ rest) (value.toList ++ values)

/-- Phrases are each within a bound if and only if they are so together. -/
theorem many_bounded_iff {phrase : List Token → Option α → Prop} {bound : List α → Prop}
    (hnil : bound []) (happend : ∀ {front back}, bound (front ++ back) ↔ bound front ∧ bound back)
    {tokens : List Token} {values : List α} :
    Many (fun tokens value => phrase tokens value ∧ bound value.toList) tokens values ↔
      Many phrase tokens values ∧ bound values := by
  constructor
  · intro h
    induction h with
    | nil => exact ⟨.nil, hnil⟩
    | cons hphrase _ ih => exact ⟨.cons hphrase.1 ih.1, happend.2 ⟨hphrase.2, ih.2⟩⟩
  · intro ⟨hmany, hbound⟩
    induction hmany with
    | nil => exact .nil
    | cons hphrase _ ih =>
      obtain ⟨hfirst, hrest⟩ := happend.1 hbound
      exact .cons ⟨hphrase, hfirst⟩ (ih hrest)

/-- The repetition of a rule. -/
def many (rule : Rule (Option α)) (follow : Option Token → Prop) : Rule (List α) where
  phrase := Many rule.phrase
  limited := Many rule.limited
  follow := follow
  excess tokens error := ∃ values front back,
    Many rule.limited front values ∧ rule.excess back error ∧ tokens = front ++ back
  phrase_of_limited h := by
    induction h with
    | nil => exact .nil
    | cons hphrase _ ih => exact .cons (rule.phrase_of_limited hphrase) ih
  productive := ⟨[], [], .nil⟩

/-- A rule can stand for a wider one in front of `next`: it has fewer phrases elsewhere, may let
more stand behind them, and may give a finer account of what breaks the limits. -/
structure Narrows (rule other : Rule α) (next : Option Token) : Prop where
  phrase : ∀ tokens value, rule.phrase tokens value → other.phrase tokens value
  limited : ∀ tokens value, rule.limited tokens value → other.limited tokens value
  phrase_here : ∀ tokens value rest, other.phrase tokens value → other.follow rest.head? →
    (tokens ++ rest).head? = next → rule.phrase tokens value
  limited_here : ∀ tokens value rest, other.limited tokens value → other.follow rest.head? →
    (tokens ++ rest).head? = next → rule.limited tokens value
  follow : ∀ o, other.follow o → rule.follow o
  excess : ∀ tokens error, rule.excess tokens error → other.excess tokens error

/-- Rules with the same phrases can stand for each other everywhere. -/
theorem narrows_of_iff {rule other : Rule α} (next : Option Token)
    (hphrase : ∀ tokens value, rule.phrase tokens value ↔ other.phrase tokens value)
    (hlimited : ∀ tokens value, rule.limited tokens value ↔ other.limited tokens value)
    (hfollow : ∀ o, other.follow o → rule.follow o)
    (hexcess : ∀ tokens error, rule.excess tokens error → other.excess tokens error) :
    rule.Narrows other next where
  phrase tokens value := (hphrase tokens value).1
  limited tokens value := (hlimited tokens value).1
  phrase_here tokens value _ h _ _ := (hphrase tokens value).2 h
  limited_here tokens value _ h _ _ := (hlimited tokens value).2 h
  follow := hfollow
  excess := hexcess

/-- Rules without limits that have the same phrases can stand for each other everywhere. -/
theorem narrows_of_free {rule other : Rule α} (next : Option Token)
    (hphrase : ∀ tokens value, rule.phrase tokens value ↔ other.phrase tokens value)
    (hfree : rule.limited = rule.phrase) (hother : other.limited = other.phrase)
    (hfollow : ∀ o, other.follow o → rule.follow o)
    (hexcess : ∀ tokens error, ¬ rule.excess tokens error) : rule.Narrows other next :=
  narrows_of_iff next hphrase (fun tokens value => by rw [hfree, hother, hphrase]) hfollow
    fun tokens error h => absurd h (hexcess tokens error)

/-- What no narrow phrase begins with, no wide phrase begins with either, if wide phrases that are
here are narrow ones. -/
theorem refuses_of_here {rule other : Rule α} {next : Option Token}
    {narrow wide : List Token → α → Prop} {tokens before after : List Token}
    (hfollow : ∀ o, other.follow o → rule.follow o)
    (hhere : ∀ tokens value rest, wide tokens value → other.follow rest.head? →
      (tokens ++ rest).head? = next → narrow tokens value)
    (htokens : tokens = before ++ after) (hnonempty : before ≠ []) (hnext : tokens.head? = next)
    (h : rule.Refuses narrow before) : other.Refuses wide before := by
  intro phrase value rest hphrase hrest ⟨more, heq⟩
  have hhead : (phrase ++ rest).head? = next := by
    rw [← heq, head?_append_of_eq_append more htokens hnonempty, hnext]
  have hnarrow := hhere phrase value rest hphrase hrest hhead
  exact h phrase value rest hnarrow (hfollow _ hrest) ⟨more, heq⟩

namespace Narrows

variable {rule other : Rule α} {next : Option Token} (hnarrows : rule.Narrows other next)

include hnarrows

/-- What a narrow rule may begin with, the wide one may begin with. -/
theorem viable {tokens : List Token} (h : rule.Viable tokens) : other.Viable tokens :=
  h.imp fun _ => .imp fun _ => hnarrows.phrase _ _

/-- What is accepted as a phrase of the narrow rule is one of the wide rule. -/
theorem accepts {parser behind : Parser} {value : α} (hnext : parser.ahead.tokens.head? = next)
    (h : rule.Accepts parser value behind) : other.Accepts parser value behind := by
  obtain ⟨taken, hahead, hallowance, hlimited, hsettles⟩ := h
  refine ⟨taken, hahead, hallowance, hnarrows.limited _ _ hlimited, ?_⟩
  intro ahead phrase value' rest hhead hphrase hfollow heq
  refine hsettles ahead phrase value' rest hhead ?_ (hnarrows.follow _ hfollow) heq
  refine hnarrows.phrase_here phrase value' rest hphrase hfollow ?_
  rw [← heq, ← hnext, hahead]
  cases taken <;> simp [hhead]

/-- An error that is right for the narrow rule is right for the wide one. -/
theorem rejects {ahead : Ahead} {error : SyntaxError} (hnext : ahead.tokens.head? = next)
    (h : rule.Rejects ahead error) : other.Rejects ahead error := by
  cases h with
  | @token expected token before after htokens hviable hrefuses =>
    -- With the refused token the beginning is not empty, so it shows which token is next.
    have hthrough : ahead.tokens = (before ++ [token]) ++ after := by simp [htokens]
    exact .token htokens (hnarrows.viable hviable)
      (refuses_of_here hnarrows.follow hnarrows.phrase_here hthrough (by simp) hnext hrefuses)
  | finished hending hviable hrefuses =>
    refine .finished hending (hnarrows.viable hviable) ?_
    intro phrase value rest hphrase hfollow heq
    refine hrefuses phrase value rest ?_ (hnarrows.follow _ hfollow) heq
    exact hnarrows.phrase_here phrase value rest hphrase hfollow (by rw [← heq, hnext])
  | failed hending hviable => exact .failed hending (hnarrows.viable hviable)
  | excess htokens hnonempty hviable hexcess hrefuses =>
    exact .excess htokens hnonempty (hnarrows.viable hviable) (hnarrows.excess _ _ hexcess)
      (refuses_of_here hnarrows.follow hnarrows.limited_here htokens hnonempty hnext hrefuses)

end Narrows

/-- Where a test does not answer as it does in front of every phrase of a rule, no phrase is. -/
theorem not_phrase_of_test {rule : Rule α} {follow : Option Token → Prop}
    {test : Option Token → Bool} {answer : Bool} {tokens rest : List Token} {value : α}
    {next : Option Token}
    (htest : ∀ tokens value rest, rule.phrase tokens value → follow rest.head? →
      test (tokens ++ rest).head? = answer)
    (hnext : test next = !answer) (hrest : follow rest.head?)
    (hhead : (tokens ++ rest).head? = next) : ¬ rule.phrase tokens value := by
  intro hphrase
  have hanswer := htest tokens value rest hphrase hrest
  rw [hhead, hnext] at hanswer
  exact (Bool.not_eq_self answer).1 hanswer

/-- Where a test tells the phrases of two rules apart, the first can stand for the choice. -/
theorem narrows_choice_left {left right : Rule α} {follow : Option Token → Prop}
    {test : Option Token → Bool} {next : Option Token}
    (hfollow : ∀ o, follow o → left.follow o)
    (hright : ∀ tokens value rest, right.phrase tokens value → follow rest.head? →
      test (tokens ++ rest).head? = false)
    (hnext : test next = true) : left.Narrows (left.choice right follow) next where
  phrase _ _ := .inl
  limited _ _ := .inl
  phrase_here _ _ _ h hrest hhead :=
    h.resolve_right (not_phrase_of_test hright hnext hrest hhead)
  limited_here _ _ _ h hrest hhead :=
    h.resolve_right fun h =>
      not_phrase_of_test hright hnext hrest hhead (right.phrase_of_limited h)
  follow := hfollow
  excess _ _ := .inl

/-- Where a test tells the phrases of two rules apart, the second can stand for the choice. -/
theorem narrows_choice_right {left right : Rule α} {follow : Option Token → Prop}
    {test : Option Token → Bool} {next : Option Token}
    (hfollow : ∀ o, follow o → right.follow o)
    (hleft : ∀ tokens value rest, left.phrase tokens value → follow rest.head? →
      test (tokens ++ rest).head? = true)
    (hnext : test next = false) : right.Narrows (left.choice right follow) next where
  phrase _ _ := .inr
  limited _ _ := .inr
  phrase_here _ _ _ h hrest hhead :=
    h.resolve_left (not_phrase_of_test hleft hnext hrest hhead)
  limited_here _ _ _ h hrest hhead :=
    h.resolve_left fun h =>
      not_phrase_of_test hleft hnext hrest hhead (left.phrase_of_limited h)
  follow := hfollow
  excess _ _ := .inr

/-- Tokens that a phrase begins with still begin one when its value is changed. -/
theorem viable_map {rule : Rule α} {tokens : List Token} (change : α → β)
    (h : rule.Viable tokens) : (rule.map change).Viable tokens := by
  obtain ⟨rest, value, hphrase⟩ := h
  exact ⟨rest, change value, value, hphrase, rfl⟩

/-- Tokens that no phrase begins with begin none when values are changed. -/
theorem refuses_map {rule : Rule α} {phrase : List Token → α → Prop} {tokens : List Token}
    (change : α → β) (h : rule.Refuses phrase tokens) :
    (rule.map change).Refuses (Changed change phrase) tokens := by
  intro other _ rest ⟨original, horiginal, _⟩
  exact h other original rest horiginal

/-- What is wrong with a rule is wrong with the rule whose values are changed. -/
theorem rejects_map {rule : Rule α} {ahead : Ahead} {error : SyntaxError} (change : α → β)
    (h : rule.Rejects ahead error) : (rule.map change).Rejects ahead error := by
  cases h with
  | token htokens hviable hrefuses =>
    exact .token htokens (viable_map change hviable) (refuses_map change hrefuses)
  | finished hending hviable hrefuses =>
    refine .finished hending (viable_map change hviable) ?_
    intro other _ rest ⟨original, horiginal, _⟩
    exact hrefuses other original rest horiginal
  | failed hending hviable => exact .failed hending (viable_map change hviable)
  | excess htokens hnonempty hviable hexcess hrefuses =>
    exact .excess htokens hnonempty (viable_map change hviable) hexcess
      (refuses_map change hrefuses)

/-- What is wrong with a rule is wrong with any rule whose phrases all begin with one of its
phrases, if these can be completed to such phrases. -/
theorem rejects_of_front {first : Rule α} {rule : Rule β} {ahead : Ahead} {error : SyntaxError}
    (hfree : ∀ o, first.follow o) (hexcess : ∀ tokens error, ¬ first.excess tokens error)
    (hfront : ∀ tokens value, rule.phrase tokens value →
      ∃ front middle back, first.phrase front middle ∧ tokens = front ++ back)
    (hviable : ∀ tokens, first.Viable tokens → rule.Viable tokens)
    (h : first.Rejects ahead error) : rule.Rejects ahead error := by
  cases h with
  | token htokens hbefore hrefuses =>
    refine .token htokens (hviable _ hbefore) ?_
    intro other value rest hother _
    obtain ⟨front, middle, back, hphrase, rfl⟩ := hfront other value hother
    rw [List.append_assoc]
    exact hrefuses front middle _ hphrase (hfree _)
  | finished hending htokens hrefuses =>
    refine .finished hending (hviable _ htokens) ?_
    intro other value rest hother _
    obtain ⟨front, middle, back, hphrase, rfl⟩ := hfront other value hother
    rw [List.append_assoc]
    exact hrefuses front middle _ hphrase (hfree _)
  | failed hending htokens => exact .failed hending (hviable _ htokens)
  | excess _ _ _ hbroken _ => exact absurd hbroken (hexcess _ _)

end Rule

end VinylSyntax
