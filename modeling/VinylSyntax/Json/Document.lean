/-!
# JSON texts

Reading of JSON texts as documents. Numbers are kept as they are written. The escapes of a string
may name one half of a character beyond sixteen bits without the other; such a string has no
content, which matters only to those who look at it.
-/

namespace VinylSyntax

/-- What a JSON text says. -/
inductive Document where
  | null
  | bool (value : Bool)
  | number (text : List Char)
  | string (content : Option String)
  | array (items : List Document)
  | object (members : List (Option String × Document))
deriving Inhabited

namespace Document

/-- Leaves out the blanks at the beginning of a text. -/
def skipBlanks (text : List Char) : List Char :=
  text.dropWhile fun char => char == ' ' || char == '\t' || char == '\n' || char == '\r'

/-- Whether a character is a decimal digit. -/
def isDecimal (char : Char) : Bool := '0' ≤ char && char ≤ '9'

/-- Splits a run of digits, at least one, off a text. -/
def digits? (text : List Char) : Option (List Char × List Char) :=
  match text.takeWhile isDecimal with
  | [] => none
  | digits => some (digits, text.dropWhile isDecimal)

/-- Splits the integer part of a number off a text: zero, or digits that do not begin with zero. -/
def whole? (text : List Char) : Option (List Char × List Char) :=
  match text with
  | '0' :: rest => some (['0'], rest)
  | _ => digits? text

/-- Splits the fraction of a number off a text, if one begins there. -/
def fraction? (text : List Char) : Option (List Char × List Char) :=
  match text with
  | '.' :: rest => (digits? rest).map fun (digits, rest) => ('.' :: digits, rest)
  | _ => some ([], text)

/-- Splits the exponent of a number off a text, if one begins there. -/
def exponent? (text : List Char) : Option (List Char × List Char) :=
  match text with
  | mark :: rest =>
    if mark == 'e' || mark == 'E' then
      match rest with
      | '+' :: rest => (digits? rest).map fun (digits, rest) => (mark :: '+' :: digits, rest)
      | '-' :: rest => (digits? rest).map fun (digits, rest) => (mark :: '-' :: digits, rest)
      | _ => (digits? rest).map fun (digits, rest) => (mark :: digits, rest)
    else some ([], text)
  | [] => some ([], text)

/-- Splits a number off a text. -/
def number? (text : List Char) : Option (List Char × List Char) := do
  let (sign, text) :=
    match text with
    | '-' :: rest => (['-'], rest)
    | _ => ([], text)
  let (whole, text) ← whole? text
  let (fraction, text) ← fraction? text
  let (exponent, text) ← exponent? text
  return (sign ++ whole ++ fraction ++ exponent, text)

/-- The value of a hexadecimal digit. -/
def hexValue? (char : Char) : Option Nat :=
  if isDecimal char then some (char.toNat - '0'.toNat)
  else if 'a' ≤ char ∧ char ≤ 'f' then some (char.toNat - 'a'.toNat + 10)
  else if 'A' ≤ char ∧ char ≤ 'F' then some (char.toNat - 'A'.toNat + 10)
  else none

/-- The sixteen bits that four hexadecimal digits name. -/
def unit? (a b c d : Char) : Option Nat := do
  return (((← hexValue? a) * 16 + (← hexValue? b)) * 16 + (← hexValue? c)) * 16 + (← hexValue? d)

/-- What sixteen bits stand for: a character, or the first or second half of one. -/
inductive Half where
  | whole (char : Char)
  | first (bits : Nat)
  | second (bits : Nat)

/-- What sixteen bits stand for. -/
def half (unit : Nat) : Half :=
  if unit < 0xd800 ∨ 0xe000 ≤ unit then .whole (Char.ofNat unit)
  else if unit < 0xdc00 then .first (unit - 0xd800)
  else .second (unit - 0xdc00)

/-- The character that a backslash and this character stand for. -/
def escaped? : Char → Option Char
  | '"' => some '"'
  | '\\' => some '\\'
  | '/' => some '/'
  | 'b' => some '\x08'
  | 'f' => some '\x0c'
  | 'n' => some '\n'
  | 'r' => some '\r'
  | 't' => some '\t'
  | _ => none

/-- What has been read of a string: its characters, latest first, unless half a character stood
alone, and a first half that waits for its second. -/
structure Reading where
  chars : Option (List Char)
  waiting : Option Nat

namespace Reading

/-- Nothing read yet. -/
def empty : Reading := ⟨some [], none⟩

/-- A first half that waits in vain leaves the string without content. -/
def settle (reading : Reading) : Reading :=
  match reading.waiting with
  | none => reading
  | some _ => ⟨none, none⟩

/-- Reads a character. -/
def push (reading : Reading) (char : Char) : Reading :=
  let settled := reading.settle
  { settled with chars := settled.chars.map (char :: ·) }

/-- Reads what sixteen bits stand for. -/
def pushHalf (reading : Reading) : Half → Reading
  | .whole char => reading.push char
  | .first bits => { reading.settle with waiting := some bits }
  | .second bits =>
    match reading.waiting with
    | some first =>
      ⟨reading.chars.map (Char.ofNat (0x10000 + first * 0x400 + bits) :: ·), none⟩
    | none => ⟨none, none⟩

/-- The content of the string. -/
def content (reading : Reading) : Option String :=
  reading.settle.chars.map fun chars => String.ofList chars.reverse

end Reading

/-- Splits the rest of a string off a text, up to and including the closing quote. -/
def string? (reading : Reading) : List Char → Option (Option String × List Char)
  | [] => none
  | '"' :: rest => some (reading.content, rest)
  | '\\' :: 'u' :: a :: b :: c :: d :: rest =>
    match unit? a b c d with
    | some unit => string? (reading.pushHalf (half unit)) rest
    | none => none
  | '\\' :: char :: rest =>
    match escaped? char with
    | some char => string? (reading.push char) rest
    | none => none
  | char :: rest => if char.toNat < 0x20 then none else string? (reading.push char) rest

/-- Splits a word off a text that begins with it. -/
def word? (word : String) (text : List Char) : Option (List Char) :=
  if word.toList.isPrefixOf text then some (text.drop word.length) else none

mutual

/-- Splits a value off a text, nested no deeper than a number of levels. -/
def value? : Nat → List Char → Option (Document × List Char)
  | 0, _ => none
  | levels + 1, text =>
    match skipBlanks text with
    | '"' :: rest => (string? .empty rest).map fun (content, rest) => (.string content, rest)
    | '[' :: rest =>
      match skipBlanks rest with
      | ']' :: rest => some (.array [], rest)
      | rest => (items? levels [] rest).map fun (items, rest) => (.array items, rest)
    | '{' :: rest =>
      match skipBlanks rest with
      | '}' :: rest => some (.object [], rest)
      | rest => (members? levels [] rest).map fun (members, rest) => (.object members, rest)
    | 't' :: rest => (word? "rue" rest).map fun rest => (.bool true, rest)
    | 'f' :: rest => (word? "alse" rest).map fun rest => (.bool false, rest)
    | 'n' :: rest => (word? "ull" rest).map fun rest => (.null, rest)
    | text => (number? text).map fun (digits, rest) => (.number digits, rest)

/-- Splits the items of an array and the closing bracket off a text; `found` came before, latest
first. -/
def items? : Nat → List Document → List Char → Option (List Document × List Char)
  | 0, _, _ => none
  | levels + 1, found, text =>
    match value? levels text with
    | none => none
    | some (item, rest) =>
      match skipBlanks rest with
      | ',' :: rest => items? levels (item :: found) rest
      | ']' :: rest => some ((item :: found).reverse, rest)
      | _ => none

/-- Splits the members of an object and the closing brace off a text; `found` came before, latest
first. -/
def members? : Nat → List (Option String × Document) → List Char →
    Option (List (Option String × Document) × List Char)
  | 0, _, _ => none
  | levels + 1, found, text =>
    match skipBlanks text with
    | '"' :: rest =>
      match string? .empty rest with
      | none => none
      | some (key, rest) =>
        match skipBlanks rest with
        | ':' :: rest =>
          match value? levels rest with
          | none => none
          | some (value, rest) =>
            match skipBlanks rest with
            | ',' :: rest => members? levels ((key, value) :: found) rest
            | '}' :: rest => some (((key, value) :: found).reverse, rest)
            | _ => none
        | _ => none
    | _ => none

end

/-- Reads a text that holds one value and nothing else. No value has more levels than the text has
characters. -/
def ofString? (text : String) : Option Document :=
  match value? (2 * text.length + 2) text.toList with
  | some (document, rest) => if (skipBlanks rest).isEmpty then some document else none
  | none => none

end Document

end VinylSyntax
