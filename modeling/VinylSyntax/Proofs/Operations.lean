import VinylSyntax.Proofs.Checked.Lexing
import VinylSyntax.Proofs.Extent

/-!
# Operations on a text

A text is seen through four primitives: the character at an offset, the offset and the location of
the cursor, and taking a single character. Here the operations of a cursor are put together of these
alone, with every sum checked (`Operation.perform`): inspecting looks at one offset after the other,
reading makes room for a byte of each character and then takes one after the other, and reading up
to a stopping character scans ahead by offsets and then reads as many characters as were scanned.
Wherever operations lead to from the beginning of a text that the counters have room for, the cursor
stands behind what was read, and every operation does there what the cursor's own function says: see
`place_of_reaches`.
-/

namespace VinylSyntax

namespace Cursor

/-! ## Operations made of primitives -/

/-- A sum of offsets, which must fit their counter. -/
def addOffsets (a b : Nat) : Except Fault Nat :=
  if a + b < offsetRange then .ok (a + b) else .error .additionOverflow

/-- The character at an offset of the text, which does not lie in front of the cursor. -/
def charAt? (cursor : Cursor) (offset : Nat) : Option Char := cursor.rest[offset - cursor.offset]?

/-- Takes a single character, unless the text has ended. -/
def takeChecked (cursor : Cursor) : Except Fault (Option Char × Cursor) :=
  match cursor.rest with
  | [] => .ok (none, cursor)
  | char :: rest => do
    let offset ← addOffsets cursor.offset 1
    let location ← cursor.location.advanceChecked char
    return (some char, ⟨rest, offset, location⟩)

/-- The characters at `count` offsets, beginning with one, up to the end of the text. -/
def charsAt (cursor : Cursor) (offset : Nat) : Nat → List Char
  | 0 => []
  | count + 1 =>
    match cursor.charAt? offset with
    | none => []
    | some char => char :: cursor.charsAt (offset + 1) count

/-- The next `count` characters, looked at one by one. -/
def inspect (cursor : Cursor) (count : Nat) : Except Fault (List Char) := do
  let _ ← addOffsets cursor.offset count
  return cursor.charsAt cursor.offset count

/-- Takes up to `count` characters, one by one. -/
def takeUpTo (cursor : Cursor) : Nat → Except Fault (List Char × Cursor)
  | 0 => .ok ([], cursor)
  | count + 1 => do
    match ← cursor.takeChecked with
    | (none, behind) => return ([], behind)
    | (some char, behind) =>
      let (taken, last) ← behind.takeUpTo count
      return (char :: taken, last)

/-- The largest number of bytes that room can be made for at once. -/
def capacity : Nat := 0x7fffffffffffffff

/-- Makes room for `count` bytes, and then takes up to `count` characters. -/
def readChecked (cursor : Cursor) (count : Nat) : Except Fault (List Char × Cursor) :=
  if count ≤ capacity then cursor.takeUpTo count else .error .capacityOverflow

/-- The number of characters in front of the first that `stop` holds at. Of these, `length` were
scanned, up to `previous`. -/
def scanFrom (cursor : Cursor) (stop : Option Char → Char → Bool) (previous : Option Char)
    (length : Nat) : Except Fault Nat :=
  if cursor.offset + length < offsetRange then
    match hchar : cursor.charAt? (cursor.offset + length) with
    | none => .ok length
    | some char =>
      if stop previous char then .ok length else cursor.scanFrom stop (some char) (length + 1)
  else .error .additionOverflow
termination_by cursor.rest.length - length
decreasing_by
  rw [charAt?, Nat.add_sub_cancel_left] at hchar
  obtain ⟨hlt, -⟩ := List.getElem?_eq_some_iff.1 hchar
  omega

/-- Scans up to the first character at which `stop` holds, and reads what was scanned. -/
def readUntilChecked (cursor : Cursor) (stop : Option Char → Char → Bool) :
    Except Fault (List Char × Cursor) := do
  cursor.readChecked (← cursor.scanFrom stop none 0)

/-- What can be done with a cursor. -/
inductive Operation where
  | take
  | peek (count : Nat)
  | read (count : Nat)
  | readUntil (stop : Option Char → Char → Bool)
  | readUntilChar (char : Char)

namespace Operation

/-- What an operation that is made of the primitives returns, and the cursor behind it. -/
def perform (cursor : Cursor) : Operation → Except Fault (List Char × Cursor)
  | .take => cursor.takeChecked.map fun (char, behind) => (char.toList, behind)
  | .peek count => (cursor.inspect count).map fun chars => (chars, cursor)
  | .read count => cursor.readChecked count
  | .readUntil stop => cursor.readUntilChecked stop
  | .readUntilChar char => cursor.readUntilChecked fun _ current => current == char

/-- What the cursor's own functions say that an operation returns, and the cursor behind it. -/
def outcome (cursor : Cursor) : Operation → List Char × Cursor
  | .take =>
    match cursor.next? with
    | none => ([], cursor)
    | some (char, behind) => ([char], behind)
  | .peek count => (cursor.peek count, cursor)
  | .read count => cursor.read count
  | .readUntil stop => cursor.readUntil stop
  | .readUntilChar char => cursor.readUntilChar char

/-- What an operation consumes of the characters that it returns: all of them, unless it only
looks. -/
def consumed (result : List Char) : Operation → List Char
  | .peek _ => []
  | _ => result

/-- Whether the offsets that an operation asks for fit their counter, and the room that it asks for
can be had. -/
def inRange (cursor : Cursor) : Operation → Bool
  | .peek count => cursor.offset + count < offsetRange
  | .read count => count ≤ capacity
  | _ => true

/-- The fault of an operation that asks for too much. -/
def excess : Operation → Fault
  | .read _ => .capacityOverflow
  | _ => .additionOverflow

end Operation

/-- The cursors that operations lead to from the beginning of a text, with the characters that were
returned by those that consume. -/
inductive Reaches (text : List Char) : List Char → Cursor → Prop where
  | start : Reaches text [] (ofChars text)
  | step {read result : List Char} {cursor behind : Cursor} {operation : Operation}
      (h : Reaches text read cursor)
      (hperform : operation.perform cursor = .ok (result, behind)) :
      Reaches text (read ++ operation.consumed result) behind

/-! ## Runs of characters -/

/-- The counters have room for what is left in front of a cursor. -/
structure Roomy (cursor : Cursor) : Prop where
  location : cursor.location.Room cursor.rest.length
  offset : cursor.offset + cursor.rest.length < offsetRange

variable {cursor : Cursor}

/-! ## What the primitives come to -/

/-- The character at an offset is found at its distance from the cursor. -/
theorem charAt?_add (cursor : Cursor) (ahead : Nat) :
    cursor.charAt? (cursor.offset + ahead) = cursor.rest[ahead]? := by
  rw [charAt?, Nat.add_sub_cancel_left]

/-- Behind two stretches, a cursor is behind both of them together. -/
theorem past_past (cursor : Cursor) (front back middle rest : List Char) :
    (cursor.past front middle).past back rest = cursor.past (front ++ back) rest := by
  simp only [past, Location.advanceOver_append, List.length_append, Nat.add_assoc]

/-- The characters at offsets are those of the text, from the first offset on. -/
theorem charsAt_eq (cursor : Cursor) (ahead count : Nat) :
    cursor.charsAt (cursor.offset + ahead) count = (cursor.rest.drop ahead).take count := by
  induction count generalizing ahead with
  | zero => simp [charsAt]
  | succ count ih =>
    rw [charsAt, charAt?_add]
    cases hchar : cursor.rest[ahead]? with
    | none =>
      rw [List.drop_eq_nil_of_le (List.getElem?_eq_none_iff.1 hchar), List.take_nil]
    | some char =>
      obtain ⟨hlt, rfl⟩ := List.getElem?_eq_some_iff.1 hchar
      rw [List.drop_eq_getElem_cons hlt, List.take_succ_cons]
      exact congrArg (_ :: ·) (ih (ahead + 1))

/-- Looking at the next characters one by one is inspecting them. -/
theorem inspect_eq (cursor : Cursor) (count : Nat) :
    cursor.inspect count = cursor.peekChecked count := by
  have hchars := charsAt_eq cursor 0 count
  rw [List.drop_zero, Nat.add_zero] at hchars
  rw [inspect, peekChecked, addOffsets, hchars]
  split <;> rfl

/-- A character is taken without a fault, and there is room for what follows. -/
theorem Roomy.take {char : Char} {rest : List Char} (h : cursor.Roomy)
    (hrest : cursor.rest = char :: rest) :
    cursor.takeChecked = .ok (some char, cursor.past [char] rest) ∧
      (cursor.past [char] rest).Roomy := by
  obtain ⟨hlocation, hoffset⟩ := h
  rw [hrest, List.length_cons] at hlocation hoffset
  constructor
  · rw [takeChecked, hrest]
    simp only [addOffsets, if_pos (show cursor.offset + 1 < offsetRange by omega),
      hlocation.advanceChecked char]
    rfl
  · exact ⟨hlocation.advance char, by simp only [past, List.length_singleton]; omega⟩

/-- Taking one character after the other is reading them. -/
theorem Roomy.takeUpTo (h : cursor.Roomy) (count : Nat) :
    cursor.takeUpTo count = .ok (cursor.read count) := by
  induction count generalizing cursor with
  | zero => rfl
  | succ count ih =>
    cases hrest : cursor.rest with
    | nil =>
      have htake : cursor.takeChecked = .ok (none, cursor) := by
        rw [takeChecked, hrest]
      have hread : cursor.read (count + 1) = ([], cursor) := by
        obtain ⟨rest, offset, location⟩ := cursor
        obtain rfl : rest = [] := hrest
        rfl
      simp only [Cursor.takeUpTo, htake, hread]
      rfl
    | cons char rest =>
      obtain ⟨htake, hroomy⟩ := h.take hrest
      have hmore := ih hroomy
      simp only [Cursor.takeUpTo, htake, bind, Except.bind, hmore]
      simp only [read, hrest, List.take_succ_cons, List.drop_succ_cons, past_past]
      rfl

/-- Once room is made, reading takes the characters. -/
theorem Roomy.readChecked (h : cursor.Roomy) (count : Nat) : cursor.readChecked count =
    if count ≤ capacity then .ok (cursor.read count) else .error .capacityOverflow := by
  rw [Cursor.readChecked, h.takeUpTo]

/-- There is room for every part of what is left of a text. -/
theorem Roomy.le_capacity (h : cursor.Roomy) {count : Nat} (hcount : count ≤ cursor.rest.length) :
    count ≤ capacity := by
  have hfits := h.location.fits
  have hrange : Location.counterRange ≤ capacity := by decide
  omega

/-- Scanning ahead by offsets finds as many characters as are split off. -/
theorem Roomy.scanFrom (h : cursor.Roomy) (stop : Option Char → Char → Bool)
    {scanned text : List Char} (hrest : cursor.rest = scanned.reverse ++ text) :
    cursor.scanFrom stop scanned.head? scanned.length =
      .ok (splitWhere (fun previous char _ => stop previous char) scanned text).1.length := by
  have hoffset := h.offset
  -- Both walk through what is left of the text, one by offsets and the other by characters.
  induction text generalizing scanned with
  | nil =>
    have hlength := congrArg List.length hrest
    simp only [List.append_nil, List.length_reverse] at hlength
    have hend : cursor.charAt? (cursor.offset + scanned.length) = none := by
      rw [charAt?_add, List.getElem?_eq_none_iff]
      omega
    rw [Cursor.scanFrom, if_pos (by omega)]
    split
    · simp [splitWhere]
    · simp_all
  | cons char text ih =>
    have hlength := congrArg List.length hrest
    simp only [List.length_append, List.length_reverse, List.length_cons] at hlength
    have hnext : cursor.charAt? (cursor.offset + scanned.length) = some char := by
      rw [charAt?_add, hrest]
      simp
    rw [Cursor.scanFrom, if_pos (by omega)]
    split
    · simp_all
    · next current hcurrent =>
      obtain rfl : char = current := Option.some.inj (hnext.symm.trans hcurrent)
      rw [splitWhere]
      split
      · simp
      · exact @ih (char :: scanned) (by simp [hrest])

/-- Reading up to a stopping character is reading as many characters as are split off. -/
theorem read_of_splitWhere (cursor : Cursor) (stop : Option Char → Char → Bool) :
    cursor.read (splitWhere (fun previous char _ => stop previous char) [] cursor.rest).1.length =
      cursor.readUntil stop := by
  have happend := splitWhere_append (fun previous char _ => stop previous char) [] cursor.rest
  rw [List.reverse_nil, List.nil_append] at happend
  rw [read, readUntil]
  generalize splitWhere (fun previous char _ => stop previous char) [] cursor.rest = split
    at happend ⊢
  obtain ⟨taken, rest⟩ := split
  rw [← happend, List.take_left, List.drop_left]

/-- Scanning ahead and then reading what was scanned is reading up to the stopping character. -/
theorem Roomy.readUntilChecked (h : cursor.Roomy) (stop : Option Char → Char → Bool) :
    cursor.readUntilChecked stop = .ok (cursor.readUntil stop) := by
  have hscan := @Roomy.scanFrom cursor h stop [] cursor.rest rfl
  rw [List.head?_nil, List.length_nil] at hscan
  have hlength := congrArg List.length
    (splitWhere_append (fun previous char _ => stop previous char) [] cursor.rest)
  rw [List.reverse_nil, List.nil_append, List.length_append] at hlength
  rw [Cursor.readUntilChecked, hscan, ← read_of_splitWhere]
  exact (h.readChecked _).trans (if_pos (h.le_capacity (by omega)))

/-! ## What operations do -/

/-- Wherever there is room, an operation made of primitives does what the cursor's own function
says, unless it asks for too much. -/
theorem Roomy.perform_eq (h : cursor.Roomy) (operation : Operation) :
    operation.perform cursor =
      if operation.inRange cursor then .ok (operation.outcome cursor)
      else .error operation.excess := by
  cases operation with
  | take =>
    cases hrest : cursor.rest with
    | nil =>
      simp [Operation.perform, Operation.outcome, Operation.inRange, takeChecked, next?, hrest,
        Except.map]
    | cons char rest =>
      simp [Operation.perform, Operation.outcome, Operation.inRange, (h.take hrest).1, next?, hrest,
        Except.map]
  | peek count =>
    rw [Operation.perform, inspect_eq, peekChecked]
    simp only [Operation.inRange, Operation.outcome, Operation.excess, decide_eq_true_eq]
    split <;> rfl
  | read count =>
    rw [Operation.perform, h.readChecked]
    simp only [Operation.inRange, Operation.outcome, Operation.excess, decide_eq_true_eq]
  | readUntil stop => exact h.readUntilChecked stop
  | readUntilChar char => exact h.readUntilChecked _

/-- An operation passes what it consumes. -/
theorem outcome_passes (cursor : Cursor) (operation : Operation) :
    cursor.Passes (operation.consumed (operation.outcome cursor).1)
      (operation.outcome cursor).2 := by
  have hread : ∀ count, cursor.Passes (cursor.read count).1 (cursor.read count).2 := fun count =>
    ⟨(List.take_append_drop count cursor.rest).symm, rfl⟩
  have hreadUntil : ∀ stop, cursor.Passes (cursor.readUntil stop).1 (cursor.readUntil stop).2 :=
    fun stop => read_of_splitWhere cursor stop ▸ hread _
  cases operation with
  | take =>
    cases hrest : cursor.rest with
    | nil =>
      simp only [Operation.outcome, next?, hrest]
      exact .refl cursor
    | cons char rest =>
      simp only [Operation.outcome, next?, hrest]
      exact ⟨hrest, rfl⟩
  | peek count => exact .refl cursor
  | read count => exact hread count
  | readUntil stop => exact hreadUntil stop
  | readUntilChar char => exact hreadUntil _

/-- There is room for what follows, wherever a cursor with room passes to. -/
theorem Roomy.of_passes {taken : List Char} {behind : Cursor} (h : cursor.Roomy)
    (hpasses : cursor.Passes taken behind) : behind.Roomy := by
  obtain ⟨hlocation, hoffset⟩ := h
  obtain ⟨hrest, hbehind⟩ := hpasses
  rw [hrest, List.length_append] at hlocation hoffset
  rw [hbehind]
  exact ⟨hlocation.advanceOverChecked.2, by simp only [past]; omega⟩

/-- Wherever operations lead to, the cursor stands behind what was read, and there is room for what
follows. -/
theorem Reaches.passes {text read : List Char} {cursor : Cursor} (h : Reaches text read cursor)
    (hroomy : (ofChars text).Roomy) : (ofChars text).Passes read cursor ∧ cursor.Roomy := by
  induction h with
  | start => exact ⟨.refl _, hroomy⟩
  | @step read result cursor behind operation _ hperform ih =>
    obtain ⟨hpasses, hroom⟩ := ih
    rw [hroom.perform_eq] at hperform
    split at hperform
    · have hstep := outcome_passes cursor operation
      rw [Except.ok.inj hperform] at hstep
      exact ⟨hpasses.trans hstep, hroom.of_passes hstep⟩
    · cases hperform

end Cursor

end VinylSyntax
