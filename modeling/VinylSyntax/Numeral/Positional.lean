import VinylSyntax.Numeral.Digits

/-!
# Long runs of digits

Reading and writing a number digit by digit takes time quadratic in its length. Here both go by
blocks of `2 ^ level` digits, each made of two of the level below: `valueOf` reads a run and
`digitsOf` writes one. Main statements: `valueOf` is the positional value, and `digitsOf` gives the
digits of the number without leading zeros.
-/

namespace VinylSyntax.Numeral

/-- The number of digits of a block. -/
def blockLength (level : Nat) : Nat := Nat.pow 2 level

/-- The weight of the digit in front of a block: one more than the largest number that the block
can hold. -/
def blockWeight (radix level : Nat) : Nat := Nat.pow radix (blockLength level)

/-! ## Reading -/

/-- A block read off a run of digits: the weight of what stands in front of it, its value, and the
digits behind it. Where the run ends the block is shorter. -/
structure Block where
  weight : Nat
  value : Nat
  rest : List Char

/-- Reads a block. -/
def readBlock (radix : Nat) : Nat → List Char → Block
  | 0, [] => ⟨1, 0, []⟩
  | 0, digit :: rest => ⟨radix, digitValue digit, rest⟩
  | level + 1, digits =>
    let high := readBlock radix level digits
    let low := readBlock radix level high.rest
    ⟨high.weight * low.weight, high.value * low.weight + low.value, low.rest⟩

/-- The value of a run of digits. -/
def valueOf (radix : Nat) (digits : List Char) : Nat :=
  (readBlock radix (digits.length.log2 + 1) digits).value

/-- A block is as long as two blocks of the level below. -/
theorem blockLength_succ (level : Nat) :
    blockLength (level + 1) = blockLength level + blockLength level := by
  simp [blockLength, Nat.pow_succ, Nat.mul_two]

/-- The weight of a block is that of two blocks of the level below, multiplied. -/
theorem blockWeight_succ (radix level : Nat) :
    blockWeight radix (level + 1) = blockWeight radix level * blockWeight radix level := by
  simp [blockWeight, blockLength_succ, Nat.pow_add]

/-- Digits in front of a run count as often as the run's length moves them up. -/
theorem positional_append (radix : Nat) (high low : List Char) :
    positional radix (high ++ low) =
      positional radix high * Nat.pow radix low.length + positional radix low := by
  suffices h : ∀ value : Nat,
      low.foldl (fun value digit => value * radix + digitValue digit) value =
        value * Nat.pow radix low.length + positional radix low by
    simp only [positional, List.foldl_append]
    exact h _
  induction low with
  | nil => simp [positional]
  | cons digit low ih =>
    intro value
    have first := ih (value * radix + digitValue digit)
    have zeroth := ih (digitValue digit)
    simp only [List.foldl_cons, List.length_cons, Nat.pow_eq, Nat.pow_succ, positional,
      Nat.zero_mul, Nat.zero_add] at first zeroth ⊢
    rw [first, zeroth, Nat.add_mul, Nat.mul_assoc, Nat.mul_comm radix, Nat.add_assoc]

/-- A block takes its digits off the run and knows their value and their number. -/
theorem readBlock_eq (radix level : Nat) (digits : List Char) :
    readBlock radix level digits =
      ⟨Nat.pow radix (digits.take (blockLength level)).length,
        positional radix (digits.take (blockLength level)), digits.drop (blockLength level)⟩ := by
  induction level generalizing digits with
  | zero =>
    cases digits with
    | nil => simp [readBlock, blockLength, positional]
    | cons digit rest =>
      have single : blockLength 0 = 0 + 1 := rfl
      rw [single, List.take_succ_cons, List.take_zero, List.drop_succ_cons, List.drop_zero]
      simp [readBlock, positional]
  | succ level ih =>
    rw [readBlock, ih, ih, blockLength_succ, List.take_add, positional_append, List.length_append,
      List.drop_drop]
    simp [Nat.pow_add]

/-- Reading by blocks gives the positional value. -/
theorem valueOf_eq_positional (radix : Nat) (digits : List Char) :
    valueOf radix digits = positional radix digits := by
  have short : digits.length ≤ blockLength (digits.length.log2 + 1) :=
    Nat.le_of_lt Nat.lt_log2_self
  rw [valueOf, readBlock_eq, List.take_of_length_le short]

/-! ## Writing -/

/-- The digits of a number as a full block, leading zeros included, in front of `tail`. -/
def writeBlock (radix : Nat) : Nat → Nat → List Char → List Char
  | 0, n, tail => Nat.digitChar n :: tail
  | level + 1, n, tail =>
    let weight := blockWeight radix level
    writeBlock radix level (n / weight) (writeBlock radix level (n % weight) tail)

/-- The digits of a positive number that a block can hold, without leading zeros, in front of
`tail`. -/
def writeLeading (radix : Nat) : Nat → Nat → List Char → List Char
  | 0, n, tail => Nat.digitChar n :: tail
  | level + 1, n, tail =>
    let weight := blockWeight radix level
    if n < weight then writeLeading radix level n tail
    else writeLeading radix level (n / weight) (writeBlock radix level (n % weight) tail)

/-- The digits of a number in a radix, without leading zeros; zero has one digit. -/
def digitsOf (radix n : Nat) : List Char :=
  if n = 0 then ['0'] else writeLeading radix ((n.log2 + 1).log2 + 1) n []

/-- The digits of a block are written in front of those that follow. -/
theorem writeBlock_append (radix level n : Nat) (tail : List Char) :
    writeBlock radix level n tail = writeBlock radix level n [] ++ tail := by
  induction level generalizing n tail with
  | zero => rfl
  | succ level ih =>
    simp only [writeBlock]
    rw [ih, ih _ tail, ih _ (writeBlock radix level _ []), List.append_assoc]

/-- A block behind a positive number continues its digits. -/
theorem toDigits_append_writeBlock {radix : Nat} (positive : 1 < radix) (level : Nat)
    {high low : Nat} (leads : 0 < high) (fits : low < blockWeight radix level) :
    Nat.toDigits radix high ++ writeBlock radix level low [] =
      Nat.toDigits radix (high * blockWeight radix level + low) := by
  induction level generalizing high low with
  | zero =>
    have fits : low < radix := by simpa [blockWeight, blockLength] using fits
    have weight : blockWeight radix 0 = radix := by simp [blockWeight, blockLength]
    rw [weight, Nat.mul_comm, ← Nat.toDigits_append_toDigits positive leads fits,
      Nat.toDigits_of_lt_base fits, writeBlock]
  | succ level ih =>
    have room : 0 < blockWeight radix level := Nat.pow_pos (Nat.lt_trans Nat.zero_lt_one positive)
    rw [blockWeight_succ] at fits ⊢
    simp only [writeBlock]
    rw [writeBlock_append, ← List.append_assoc, ih leads (Nat.div_lt_of_lt_mul fits),
      ih (Nat.add_pos_left (Nat.mul_pos leads room) _) (Nat.mod_lt _ room), Nat.add_mul,
      Nat.mul_assoc, Nat.add_assoc, Nat.mul_comm (low / _), Nat.div_add_mod]

/-- What a block can hold is written with the digits of the number. -/
theorem writeLeading_eq {radix : Nat} (positive : 1 < radix) (level : Nat) {n : Nat}
    (leads : 0 < n) (fits : n < blockWeight radix level) (tail : List Char) :
    writeLeading radix level n tail = Nat.toDigits radix n ++ tail := by
  induction level generalizing n tail with
  | zero =>
    have fits : n < radix := by simpa [blockWeight, blockLength] using fits
    rw [writeLeading, Nat.toDigits_of_lt_base fits]
    rfl
  | succ level ih =>
    have room : 0 < blockWeight radix level := Nat.pow_pos (Nat.lt_trans Nat.zero_lt_one positive)
    simp only [writeLeading]
    split
    · next short => exact ih leads short tail
    · next long =>
      rw [blockWeight_succ] at fits
      have high : 0 < n / blockWeight radix level := Nat.div_pos (Nat.not_lt.1 long) room
      rw [ih high (Nat.div_lt_of_lt_mul fits), writeBlock_append, ← List.append_assoc,
        toDigits_append_writeBlock positive level high (Nat.mod_lt _ room), Nat.div_add_mod']

/-- Writing by blocks gives the digits without leading zeros. -/
theorem digitsOf_eq_toDigits {radix : Nat} (positive : 1 < radix) (n : Nat) :
    digitsOf radix n = Nat.toDigits radix n := by
  rw [digitsOf]
  split
  · next zero => rw [zero, Nat.toDigits_zero]
  · next leads =>
    have fits : n < blockWeight radix ((n.log2 + 1).log2 + 1) :=
      calc n < 2 ^ (n.log2 + 1) := Nat.lt_log2_self
        _ ≤ 2 ^ blockLength ((n.log2 + 1).log2 + 1) :=
          Nat.pow_le_pow_right Nat.two_pos (Nat.le_of_lt Nat.lt_log2_self)
        _ ≤ radix ^ blockLength ((n.log2 + 1).log2 + 1) := Nat.pow_le_pow_left positive _
    rw [writeLeading_eq positive _ (Nat.pos_of_ne_zero leads) fits, List.append_nil]

end VinylSyntax.Numeral
