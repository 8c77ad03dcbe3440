import VinylSyntax.Location

/-!
# Reading a text

A cursor holds what is left of a text, how many characters were consumed, and the location they
lead to. `Cursor.past` is the only way forward; reading a number of characters, reading up to a
stopping character and taking a single one are derived from it.
-/

namespace VinylSyntax

/-- Splits a text in front of the first character at which `stop` holds, given the character scanned
before it (none at the beginning) and the one behind it (none at the end). The characters scanned
so far stand in `scanned`, latest first. -/
def splitWhere (stop : Option Char → Char → Option Char → Bool) (scanned : List Char) :
    List Char → List Char × List Char
  | [] => (scanned.reverse, [])
  | char :: rest =>
    if stop scanned.head? char rest.head? then (scanned.reverse, char :: rest)
    else splitWhere stop (char :: scanned) rest

/-- A split loses nothing: what was scanned and what is left make up the text. -/
theorem splitWhere_append (stop : Option Char → Char → Option Char → Bool)
    (scanned text : List Char) :
    (splitWhere stop scanned text).1 ++ (splitWhere stop scanned text).2 =
      scanned.reverse ++ text := by
  induction text generalizing scanned with
  | nil => simp [splitWhere]
  | cons char rest ih =>
    unfold splitWhere
    split
    · rfl
    · simp [ih]

/-- What is left after a split is no longer than the text. -/
theorem length_splitWhere_le (stop : Option Char → Char → Option Char → Bool)
    (scanned text : List Char) : (splitWhere stop scanned text).2.length ≤ text.length := by
  induction text generalizing scanned with
  | nil => simp [splitWhere]
  | cons char rest ih =>
    unfold splitWhere
    split
    · exact Nat.le_refl _
    · exact Nat.le_succ_of_le (ih _)

/-- What is left behind the character that a split stops at is shorter than the text. -/
theorem length_lt_of_splitWhere {stop : Option Char → Char → Option Char → Bool}
    {scanned text inner rest : List Char} {char : Char}
    (h : splitWhere stop scanned text = (inner, char :: rest)) : rest.length < text.length := by
  have hle := length_splitWhere_le stop scanned text
  rw [h] at hle
  exact hle

/-- A split that leaves something has stopped in front of it. -/
theorem stop_of_splitWhere {stop : Option Char → Char → Option Char → Bool}
    {scanned text inner rest : List Char} {char : Char}
    (h : splitWhere stop scanned text = (inner, char :: rest)) :
    stop inner.reverse.head? char rest.head? = true := by
  induction text generalizing scanned with
  | nil => cases h
  | cons next text ih =>
    rw [splitWhere] at h
    split at h
    · next hstop =>
      cases h
      rwa [List.reverse_reverse]
    · exact ih h

/-- What stands in front of the characters scanned so far only comes first, where the scan cannot
tell from it whether to stop at the next character. -/
theorem splitWhere_behind {stop : Option Char → Char → Option Char → Bool}
    (before scanned text : List Char)
    (h : ∀ char next, stop (scanned ++ before).head? char next = stop scanned.head? char next) :
    splitWhere stop (scanned ++ before) text =
      (before.reverse ++ (splitWhere stop scanned text).1, (splitWhere stop scanned text).2) := by
  induction text generalizing scanned with
  | nil => simp [splitWhere]
  | cons char rest ih =>
    rw [splitWhere, splitWhere, h]
    split
    · simp
    · exact ih (char :: scanned) fun _ _ => rfl

/-- A scan gets at least as far as one that stops wherever it does. -/
theorem splitWhere_of_le {stop early : Option Char → Char → Option Char → Bool}
    (h : ∀ previous char next, stop previous char next = true → early previous char next = true)
    (scanned text : List Char) :
    splitWhere stop scanned text =
      splitWhere stop (splitWhere early scanned text).1.reverse
        (splitWhere early scanned text).2 := by
  induction text generalizing scanned with
  | nil => simp [splitWhere]
  | cons char rest ih =>
    by_cases hearly : early scanned.head? char rest.head? = true
    · simp [splitWhere, hearly]
    · have hstop : ¬ stop scanned.head? char rest.head? = true :=
        fun hstop => hearly (h _ _ _ hstop)
      rw [splitWhere, if_neg hstop, ih, splitWhere, if_neg hearly]

/-- A place in a text: what is left of it, the number of characters in front of it and the location
of the next one. -/
structure Cursor where
  rest : List Char
  offset : Nat
  location : Location
deriving DecidableEq, Inhabited

namespace Cursor

/-- The place before the first character of a text. -/
def ofChars (text : List Char) : Cursor := ⟨text, 0, .start⟩

/-- The place before the first character of a text. -/
def ofString (text : String) : Cursor := ofChars text.toList

/-- The place behind the characters `taken`, where `rest` is left. -/
def past (cursor : Cursor) (taken rest : List Char) : Cursor :=
  ⟨rest, cursor.offset + taken.length, cursor.location.advanceOver taken⟩

/-- Whether every character was consumed. -/
def ended (cursor : Cursor) : Bool := cursor.rest.isEmpty

/-- The next character and the place behind it, unless the text has ended. -/
def next? (cursor : Cursor) : Option (Char × Cursor) :=
  match cursor.rest with
  | [] => none
  | char :: rest => some (char, cursor.past [char] rest)

/-- The next `count` characters, fewer near the end, without consuming them. -/
def peek (cursor : Cursor) (count : Nat) : List Char := cursor.rest.take count

/-- The number of values of the counter that holds offsets. -/
def offsetRange : Nat := 0x10000000000000000

/-- The next `count` characters, where the offset behind them must fit its counter. -/
def peekChecked (cursor : Cursor) (count : Nat) : Except Fault (List Char) :=
  if cursor.offset + count < offsetRange then .ok (cursor.peek count)
  else .error .additionOverflow

/-- Consumes up to `count` characters. -/
def read (cursor : Cursor) (count : Nat) : List Char × Cursor :=
  let taken := cursor.rest.take count
  (taken, cursor.past taken (cursor.rest.drop count))

/-- Consumes characters up to, not including, the first at which `stop` holds, given the character
scanned before it in this call. -/
def readUntil (cursor : Cursor) (stop : Option Char → Char → Bool) : List Char × Cursor :=
  let (taken, rest) := splitWhere (fun previous char _ => stop previous char) [] cursor.rest
  (taken, cursor.past taken rest)

/-- Consumes characters up to, not including, the first `char`. -/
def readUntilChar (cursor : Cursor) (char : Char) : List Char × Cursor :=
  cursor.readUntil fun _ current => current == char

end Cursor

end VinylSyntax
