import VinylSyntax.Proofs.Stepping
import VinylSyntax.Proofs.WellFormed

/-!
# What a lexer has counted

Whatever a lexer has given so far, its counts tell: how many tokens and how many errors there were,
and in detail, if that is preferred, how many tokens of each sort and how long the longest of them
is (`Metrics.Account`). A step keeps this up, since it counts just the item that it gives: see
`metrics_account`.
-/

namespace VinylSyntax

/-! ## Sorts of tokens -/

/-- The sorts of tokens that are counted apart. -/
inductive TokenSort where
  | integer
  | float
  | identifier
  | keyword
  | symbol
  | comment
deriving DecidableEq, Inhabited

/-- The sort of the tokens of a kind, whatever was decoded from their texts. -/
def TokenKind.sort : TokenKind → TokenSort
  | .integer _ => .integer
  | .float _ => .float
  | .identifier => .identifier
  | .keyword _ => .keyword
  | .symbol _ => .symbol
  | .comment => .comment

namespace TokenSort

/-- All sorts of tokens. -/
def all : List TokenSort := [integer, float, identifier, keyword, symbol, comment]

/-- The tokens of a sort. -/
def among (sort : TokenSort) (tokens : List Token) : List Token :=
  tokens.filter fun token => token.kind.sort = sort

/-- How many characters the longest token of a sort has; none if there is no such token. -/
def longest (sort : TokenSort) (tokens : List Token) : Nat :=
  ((sort.among tokens).map fun token => token.text.length).max?.getD 0

variable {sort : TokenSort} {tokens : List Token}

/-- A token at the end is among those of its sort, behind the others. -/
theorem among_concat (sort : TokenSort) (tokens : List Token) (token : Token) :
    sort.among (tokens ++ [token]) =
      if token.kind.sort = sort then sort.among tokens ++ [token] else sort.among tokens := by
  by_cases hsort : token.kind.sort = sort <;> simp [among, List.filter_append, hsort]

/-- The tokens of a sort are those whose kind is of the sort. -/
theorem mem_among {token : Token} :
    token ∈ sort.among tokens ↔ token ∈ tokens ∧ token.kind.sort = sort := by
  simp [among]

/-- Every token is of one sort. -/
theorem sum_length_among (tokens : List Token) :
    (all.map fun sort => (sort.among tokens).length).sum = tokens.length := by
  induction tokens with
  | nil => rfl
  | cons token tokens ih =>
    simp only [all, among, List.map_cons, List.map_nil, List.sum_cons, List.sum_nil,
      List.filter_cons, List.length_cons] at ih ⊢
    cases token.kind.sort <;> simp <;> omega

/-- A token at the end counts for the longest one of its sort. -/
theorem longest_concat (sort : TokenSort) (tokens : List Token) (token : Token) :
    sort.longest (tokens ++ [token]) =
      if token.kind.sort = sort then max (sort.longest tokens) token.text.length
      else sort.longest tokens := by
  have hfold : ∀ lengths : List Nat, lengths.max?.getD 0 = lengths.foldl max 0 := by
    intro lengths
    rw [List.foldl_max, Nat.zero_max]
  rw [longest, longest, among_concat]
  split
  · rw [hfold, hfold, List.map_append, List.foldl_append]
    rfl
  · rfl

/-- The longest token of a sort is within a bound that all of the sort are within. -/
theorem longest_le {bound : Nat} (h : ∀ token ∈ sort.among tokens, token.text.length ≤ bound) :
    sort.longest tokens ≤ bound := by
  rw [longest]
  cases hmax : ((sort.among tokens).map fun token => token.text.length).max? with
  | none => exact Nat.zero_le _
  | some greatest =>
    obtain ⟨token, hmem, rfl⟩ := List.mem_map.1 (List.max?_mem hmax)
    exact h token hmem

end TokenSort

/-! ## Items -/

/-- The tokens among items. -/
def tokensOf (items : List Item) : List Token :=
  items.filterMap Except.toOption

/-- The errors among items. -/
def errorsOf (items : List Item) : List LexicalError :=
  items.filterMap fun
    | .ok _ => none
    | .error error => some error

/-- Of items that are tokens, all are tokens. -/
@[simp] theorem tokensOf_map_ok (tokens : List Token) : tokensOf (tokens.map .ok) = tokens := by
  induction tokens with
  | nil => rfl
  | cons token tokens ih => exact congrArg (token :: ·) ih

/-- Of items that are tokens, none are errors. -/
@[simp] theorem errorsOf_map_ok (tokens : List Token) : errorsOf (tokens.map .ok) = [] := by
  simp [errorsOf]

/-- A token at the end is the last of the tokens. -/
@[simp] theorem tokensOf_concat_ok (items : List Item) (token : Token) :
    tokensOf (items ++ [.ok token]) = tokensOf items ++ [token] :=
  List.filterMap_append

/-- An error at the end is none of the tokens. -/
@[simp] theorem tokensOf_concat_error (items : List Item) (error : LexicalError) :
    tokensOf (items ++ [.error error]) = tokensOf items :=
  List.filterMap_append.trans (List.append_nil _)

/-- A token at the end is none of the errors. -/
@[simp] theorem errorsOf_concat_ok (items : List Item) (token : Token) :
    errorsOf (items ++ [.ok token]) = errorsOf items :=
  List.filterMap_append.trans (List.append_nil _)

/-- An error at the end is the last of the errors. -/
@[simp] theorem errorsOf_concat_error (items : List Item) (error : LexicalError) :
    errorsOf (items ++ [.error error]) = errorsOf items ++ [error] :=
  List.filterMap_append

/-- The tokens of items are the items that are tokens. -/
theorem mem_tokensOf {items : List Item} {token : Token} :
    token ∈ tokensOf items ↔ .ok token ∈ items := by
  simp only [tokensOf, List.mem_filterMap]
  constructor
  · rintro ⟨_ | token, hmem, htoken⟩ <;> cases htoken
    exact hmem
  · exact fun hmem => ⟨_, hmem, rfl⟩

/-! ## Accounts -/

/-- The tokens that are counted by kind: none unless that is preferred. -/
def LexicalPreferences.detailed (preferences : LexicalPreferences) (tokens : List Token) :
    List Token :=
  if preferences.detailedMetrics then tokens else []

namespace Metrics

/-- How many tokens of a sort were counted. -/
def count (metrics : Metrics) : TokenSort → Nat
  | .integer => metrics.integers
  | .float => metrics.floats
  | .identifier => metrics.identifiers
  | .keyword => metrics.keywords
  | .symbol => metrics.symbols
  | .comment => metrics.comments

/-- Counts an item. -/
def countItem (metrics : Metrics) (preferences : LexicalPreferences) : Item → Metrics
  | .ok token => metrics.countToken preferences token
  | .error _ => metrics.countError

/-- What was counted tells which items there were. -/
structure Account (metrics : Metrics) (preferences : LexicalPreferences) (items : List Item) :
    Prop where
  tokens_eq : metrics.tokens = (tokensOf items).length
  errors_eq : metrics.errors = (errorsOf items).length
  count_eq : ∀ sort, metrics.count sort =
    (sort.among (preferences.detailed (tokensOf items))).length
  longestIdentifier_eq : metrics.longestIdentifier =
    TokenSort.identifier.longest (preferences.detailed (tokensOf items))
  longestComment_eq : metrics.longestComment =
    TokenSort.comment.longest (preferences.detailed (tokensOf items))

variable {metrics : Metrics} {preferences : LexicalPreferences} {items : List Item}

/-- Counts of zero account for no items. -/
theorem Account.zero (preferences : LexicalPreferences) : Account .zero preferences [] := by
  have hdetailed : preferences.detailed (tokensOf []) = [] := ite_self _
  refine ⟨rfl, rfl, fun sort => ?_, ?_, ?_⟩
  all_goals rw [hdetailed]
  · cases sort <;> rfl
  · rfl
  · rfl

/-- The total of tokens is counted apart from the sorts. -/
theorem count_total (metrics : Metrics) (total : Nat) (sort : TokenSort) :
    { metrics with tokens := total }.count sort = metrics.count sort := by
  cases sort <;> rfl

/-- Counting a token under its kind changes no count but that of its sort. -/
theorem count_countKind (metrics : Metrics) (token : Token) (sort : TokenSort) :
    (metrics.countKind token).count sort =
      if token.kind.sort = sort then metrics.count sort + 1 else metrics.count sort := by
  unfold countKind
  cases token.kind <;> cases sort <;> rfl

/-- Counting a token by its kind raises the longest identifier to its length if it is one. -/
theorem longestIdentifier_countKind (metrics : Metrics) (token : Token) :
    (metrics.countKind token).longestIdentifier =
      if token.kind.sort = .identifier then max metrics.longestIdentifier token.text.length
      else metrics.longestIdentifier := by
  unfold countKind
  cases token.kind <;> rfl

/-- Counting a token by its kind raises the longest comment to its length if it is one. -/
theorem longestComment_countKind (metrics : Metrics) (token : Token) :
    (metrics.countKind token).longestComment =
      if token.kind.sort = .comment then max metrics.longestComment token.text.length
      else metrics.longestComment := by
  unfold countKind
  cases token.kind <;> rfl

/-- Counting an error changes nothing else. -/
theorem Account.countError (h : metrics.Account preferences items) (error : LexicalError) :
    metrics.countError.Account preferences (items ++ [.error error]) where
  tokens_eq := by rw [tokensOf_concat_error]; exact h.tokens_eq
  errors_eq := by
    rw [errorsOf_concat_error, List.length_append]
    exact congrArg (· + 1) h.errors_eq
  count_eq sort := by
    rw [tokensOf_concat_error, ← h.count_eq sort]
    cases sort <;> rfl
  longestIdentifier_eq := by rw [tokensOf_concat_error]; exact h.longestIdentifier_eq
  longestComment_eq := by rw [tokensOf_concat_error]; exact h.longestComment_eq

/-- Counting a token counts it by kind if that is preferred. -/
theorem Account.countToken (h : metrics.Account preferences items) (token : Token) :
    (metrics.countToken preferences token).Account preferences (items ++ [.ok token]) := by
  have htokens : (metrics.countToken preferences token).tokens =
      (tokensOf (items ++ [.ok token])).length := by
    rw [tokens_countToken, h.tokens_eq, tokensOf_concat_ok, List.length_append]
    rfl
  have herrors : (metrics.countToken preferences token).errors =
      (errorsOf (items ++ [.ok token])).length := by
    rw [errors_countToken, h.errors_eq, errorsOf_concat_ok]
  obtain ⟨-, -, hcount, hidentifier, hcomment⟩ := h
  -- By kind, the token is counted in the first case, and nothing ever is in the second.
  by_cases hpreferred : preferences.detailedMetrics = true
  · have hbehind : metrics.countToken preferences token =
        { metrics with tokens := metrics.tokens + 1 }.countKind token := if_pos hpreferred
    have hdetailed : ∀ tokens, preferences.detailed tokens = tokens := fun _ => if_pos hpreferred
    simp only [hdetailed] at hcount hidentifier hcomment
    refine ⟨htokens, herrors, fun sort => ?_, ?_, ?_⟩
    all_goals rw [hdetailed, tokensOf_concat_ok, hbehind]
    · rw [count_countKind, count_total, TokenSort.among_concat, hcount]
      split
      · rw [List.length_append, List.length_singleton]
      · rfl
    · rw [longestIdentifier_countKind, TokenSort.longest_concat, ← hidentifier]
    · rw [longestComment_countKind, TokenSort.longest_concat, ← hcomment]
  · have hbehind : metrics.countToken preferences token =
        { metrics with tokens := metrics.tokens + 1 } := if_neg hpreferred
    have hdetailed : ∀ tokens, preferences.detailed tokens = [] := fun _ => if_neg hpreferred
    simp only [hdetailed] at hcount hidentifier hcomment
    refine ⟨htokens, herrors, fun sort => ?_, ?_, ?_⟩
    all_goals rw [hdetailed, hbehind]
    · rw [count_total, hcount]
    · exact hidentifier
    · exact hcomment

/-- Counting an item keeps an account. -/
theorem Account.countItem (h : metrics.Account preferences items) (item : Item) :
    (metrics.countItem preferences item).Account preferences (items ++ [item]) := by
  cases item with
  | ok token => exact h.countToken token
  | error error => exact h.countError error

end Metrics

/-! ## Steps -/

namespace Lexer

/-- Settling a step counts the item that it is settled with. -/
theorem metrics_settle (lexer : Lexer) (item : Item) :
    (lexer.settle item).lexer.metrics = lexer.metrics.countItem lexer.preferences item := by
  cases item <;> rfl

/-- Settling a step leaves the preferences as they are. -/
theorem preferences_settle (lexer : Lexer) (item : Item) :
    (lexer.settle item).lexer.preferences = lexer.preferences := by
  cases item <;> rfl

/-- A step counts the item that it gives, and changes no preferences. -/
theorem counts_next (lexer : Lexer) : lexer.next.lexer.preferences = lexer.preferences ∧
    lexer.next.lexer.metrics =
      lexer.next.item.elim lexer.metrics (lexer.metrics.countItem lexer.preferences) := by
  by_cases hfinished : lexer.finished = true
  · rw [next_of_finished hfinished]
    exact ⟨rfl, rfl⟩
  · rcases step_cases (Bool.not_eq_true _ ▸ hfinished) with
      ⟨hnext, -⟩ | ⟨_, _, hnext, -, -⟩ | ⟨_, _, hnext, -, -, -⟩
    · rw [hnext]
      exact ⟨rfl, rfl⟩
    · rw [hnext]
      exact ⟨rfl, rfl⟩
    · rw [hnext, lex, preferences_settle, metrics_settle, item_settle]
      exact ⟨rfl, rfl⟩

/-- What a number of steps give. -/
def itemsWithin (lexer : Lexer) (calls : Nat) : List Item :=
  (List.range calls).filterMap fun call => (lexer.after call).next.item

/-- What one more step gives stands behind what the steps before gave. -/
theorem itemsWithin_succ (lexer : Lexer) (calls : Nat) : lexer.itemsWithin (calls + 1) =
    lexer.itemsWithin calls ++ (lexer.after calls).next.item.toList := by
  rw [itemsWithin, List.range_succ, List.filterMap_append]
  cases hitem : (lexer.after calls).next.item <;> simp [itemsWithin, hitem]

/-- What a number of steps give is what a run begins with. -/
theorem itemsWithin_eq_take (lexer : Lexer) (calls : Nat) :
    lexer.itemsWithin calls = lexer.run.items.take calls := by
  induction calls with
  | zero => rfl
  | succ calls ih => rw [itemsWithin_succ, ih, List.take_add_one, getElem?_items_run]

/-- After any number of steps, the counts tell what the steps gave. -/
theorem account_after (preferences : LexicalPreferences) (source : String) (calls : Nat) :
    let lexer := Lexer.ofString preferences source
    (lexer.after calls).preferences = preferences ∧
      (lexer.after calls).metrics.Account preferences (lexer.itemsWithin calls) := by
  intro lexer
  induction calls with
  | zero => exact ⟨rfl, .zero preferences⟩
  | succ calls ih =>
    obtain ⟨hpreferences, haccount⟩ := ih
    obtain ⟨hsame, hmetrics⟩ := (lexer.after calls).counts_next
    refine ⟨hsame.trans hpreferences, ?_⟩
    show (lexer.after calls).next.lexer.metrics.Account preferences _
    rw [hmetrics, itemsWithin_succ, hpreferences]
    cases (lexer.after calls).next.item with
    | none => rwa [Option.toList_none, List.append_nil]
    | some item => exact haccount.countItem item

end Lexer

/-! ## Bounds -/

/-- A well-formed identifier is no longer than allowed. -/
theorem TokenKind.Admits.length_identifier {kind : TokenKind} {text : List Char}
    (h : kind.Admits text) (hsort : kind.sort = .identifier) :
    text.length ≤ Limits.identifierLength := by
  cases h with
  | identifier _ _ _ hlength => exact hlength
  | integer | float | keyword | symbol | line | block => cases hsort

/-- A well-formed comment is no longer than allowed. -/
theorem TokenKind.Admits.length_comment {kind : TokenKind} {text : List Char}
    (h : kind.Admits text) (hsort : kind.sort = .comment) :
    text.length ≤ Limits.commentLength := by
  cases h with
  | line _ hlength => exact hlength
  | block _ _ hlength => exact hlength
  | integer | float | identifier | keyword | symbol => cases hsort

/-- After any number of steps over a source, the totals are the numbers of tokens and of errors that
were given. If that is preferred, the tokens of each sort are counted, which add up to all of them,
and the longest identifier and the longest comment are known, and not longer than allowed;
otherwise all of this is zero. -/
theorem metrics_account (preferences : LexicalPreferences) (source : String) (calls : Nat) :
    let lexer := Lexer.ofString preferences source
    let metrics := (lexer.after calls).metrics
    let tokens := tokensOf (lexer.itemsWithin calls)
    metrics.tokens = tokens.length ∧
      metrics.errors = (errorsOf (lexer.itemsWithin calls)).length ∧
      if preferences.detailedMetrics then
        (∀ sort, metrics.count sort = (sort.among tokens).length) ∧
        (TokenSort.all.map metrics.count).sum = metrics.tokens ∧
        metrics.longestIdentifier = TokenSort.identifier.longest tokens ∧
        metrics.longestIdentifier ≤ Limits.identifierLength ∧
        metrics.longestComment = TokenSort.comment.longest tokens ∧
        metrics.longestComment ≤ Limits.commentLength
      else
        (∀ sort, metrics.count sort = 0) ∧
        metrics.longestIdentifier = 0 ∧ metrics.longestComment = 0 := by
  intro lexer metrics tokens
  obtain ⟨htokens, herrors, hcount, hidentifier, hcomment⟩ :=
    (Lexer.account_after preferences source calls).2
  refine ⟨htokens, herrors, ?_⟩
  unfold LexicalPreferences.detailed at hcount hidentifier hcomment
  split
  · next hpreferred =>
    simp only [hpreferred, if_true] at hcount hidentifier hcomment
    have hadmits : ∀ token ∈ tokens, token.kind.Admits token.text.toList := by
      intro token hmem
      have hitem := mem_tokensOf.1 hmem
      rw [Lexer.itemsWithin_eq_take] at hitem
      exact Lexer.admits_of_mem (List.mem_of_mem_take hitem)
    refine ⟨hcount, ?_, hidentifier, ?_, hcomment, ?_⟩
    · rw [htokens, ← TokenSort.sum_length_among]
      exact congrArg List.sum (List.map_congr_left fun sort _ => hcount sort)
    · refine hidentifier.trans_le (TokenSort.longest_le fun token hmem => ?_)
      obtain ⟨hgiven, hsort⟩ := TokenSort.mem_among.1 hmem
      rw [← String.length_toList]
      exact (hadmits token hgiven).length_identifier hsort
    · refine hcomment.trans_le (TokenSort.longest_le fun token hmem => ?_)
      obtain ⟨hgiven, hsort⟩ := TokenSort.mem_among.1 hmem
      rw [← String.length_toList]
      exact (hadmits token hgiven).length_comment hsort
  · next hpreferred =>
    simp only [hpreferred] at hcount hidentifier hcomment
    exact ⟨hcount, hidentifier, hcomment⟩

/-- Errors do not disturb the counts: of a word, a character that begins nothing and a comment, two
tokens are counted. -/
example :
    let metrics := ((Lexer.ofString ⟨true, false⟩ "word @ /**/").after 3).metrics
    metrics.tokens = 2 ∧ metrics.errors = 1 ∧ metrics.count .comment = 1 ∧
      metrics.longestIdentifier = 4 := by
  with_unfolding_all decide

end VinylSyntax
