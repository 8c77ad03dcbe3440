/-!
# JSON values and their texts

Values of the JSON data format. A number is held as its text, so that writing never rounds, and the
members of an object keep their order. `Json.compact` writes a value without blanks and
`Json.pretty` one member or item a line, two blanks deeper a level.
-/

namespace VinylSyntax

/-- A JSON value. -/
inductive Json where
  | null
  | bool (value : Bool)
  | number (text : String)
  | string (value : String)
  | array (items : List Json)
  | object (members : List (String × Json))
deriving Inhabited

namespace Json

/-- A natural number as a JSON number. -/
def nat (n : Nat) : Json := .number (toString n)

/-- Null in place of a missing value. -/
def ofOption (value : Option Json) : Json := value.getD .null

/-- A hexadecimal digit in lower case. -/
def hexDigit (n : Nat) : Char := Nat.digitChar (n % 16)

/-- A character inside quotes: quotes, backslashes and control characters are escaped. -/
def escapeChar (char : Char) : List Char :=
  match char with
  | '"' => ['\\', '"']
  | '\\' => ['\\', '\\']
  | '\n' => ['\\', 'n']
  | '\r' => ['\\', 'r']
  | '\t' => ['\\', 't']
  | char =>
    if char.toNat = 0x8 then ['\\', 'b']
    else if char.toNat = 0xc then ['\\', 'f']
    else if char.toNat < 0x20 then
      ['\\', 'u', '0', '0', hexDigit (char.toNat / 16), hexDigit char.toNat]
    else [char]

/-- A text in quotes, appended to `out`. -/
def writeString (value : String) (out : String) : String :=
  (value.foldl (fun out char => (escapeChar char).foldl String.push out) (out.push '"')).push '"'

mutual

/-- The text of a value without blanks, appended to `out`. -/
def writeCompact (out : String) : Json → String
  | .null => out ++ "null"
  | .bool value => out ++ (if value then "true" else "false")
  | .number text => out ++ text
  | .string value => writeString value out
  | .array items => (writeCompactItems (out.push '[') true items).push ']'
  | .object members => (writeCompactMembers (out.push '{') true members).push '}'

/-- The items of an array, appended to `out`; a comma stands before all but the first. -/
def writeCompactItems (out : String) (isFirst : Bool) : List Json → String
  | [] => out
  | item :: items =>
    let out := if isFirst then out else out.push ','
    writeCompactItems (writeCompact out item) false items

/-- The members of an object, appended to `out`; a comma stands before all but the first. -/
def writeCompactMembers (out : String) (isFirst : Bool) : List (String × Json) → String
  | [] => out
  | (key, value) :: members =>
    let out := if isFirst then out else out.push ','
    let out := (writeString key out).push ':'
    writeCompactMembers (writeCompact out value) false members

end

/-- The text of a value without blanks. -/
def compact (value : Json) : String := writeCompact "" value

/-- The blanks in front of a line at a level. -/
def indentation (level : Nat) : String := String.ofList (List.replicate (2 * level) ' ')

mutual

/-- The text of a value spread over lines, appended to `out`. Empty arrays and objects stay on
their line. -/
def writePretty (level : Nat) (out : String) : Json → String
  | .null => out ++ "null"
  | .bool value => out ++ (if value then "true" else "false")
  | .number text => out ++ text
  | .string value => writeString value out
  | .array [] => out ++ "[]"
  | .array (item :: items) =>
    let out := writePrettyItems (level + 1) (out.push '[') true (item :: items)
    (out ++ "\n" ++ indentation level).push ']'
  | .object [] => (out.push '{').push '}'
  | .object (member :: members) =>
    let out := writePrettyMembers (level + 1) (out.push '{') true (member :: members)
    (out ++ "\n" ++ indentation level).push '}'

/-- The items of an array on lines of their own, appended to `out`. -/
def writePrettyItems (level : Nat) (out : String) (isFirst : Bool) : List Json → String
  | [] => out
  | item :: items =>
    let out := if isFirst then out else out.push ','
    let out := out ++ "\n" ++ indentation level
    writePrettyItems level (writePretty level out item) false items

/-- The members of an object on lines of their own, appended to `out`. -/
def writePrettyMembers (level : Nat) (out : String) (isFirst : Bool) :
    List (String × Json) → String
  | [] => out
  | (key, value) :: members =>
    let out := if isFirst then out else out.push ','
    let out := writeString key (out ++ "\n" ++ indentation level) ++ ": "
    writePrettyMembers level (writePretty level out value) false members

end

/-- The text of a value spread over lines. -/
def pretty (value : Json) : String := writePretty 0 "" value

end Json

end VinylSyntax
