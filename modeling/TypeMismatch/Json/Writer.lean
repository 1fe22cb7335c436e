import TypeMismatch.Decimal.Notation
import TypeMismatch.Json.Value
import TypeMismatch.Text.Quoted

/-!
# Writing JSON

Two layouts: `compact` on one line, and `indented` with two blanks for each level of nesting.  Both
write ASCII only: any other character is escaped by number, in two halves when it lies beyond the
first 65536 code points.
-/

namespace TypeMismatch.Json

/-- A code unit, escaped by number. -/
def escapeUnit (n : Nat) : List Char := '\\' :: 'u' :: Text.hexDigits 4 n

/-- One character of a written string. -/
def writeChar (c : Char) : List Char :=
  let n := c.toNat
  if n == 34 || n == 92 then ['\\', c]
  else if c == '\n' then ['\\', 'n']
  else if c == '\r' then ['\\', 'r']
  else if c == '\t' then ['\\', 't']
  else if n == 8 then ['\\', 'b']
  else if n == 12 then ['\\', 'f']
  else if 32 ≤ n && n ≤ 126 then [c]
  else if n < 0x10000 then escapeUnit n
  else
    escapeUnit (0xD800 + (n - 0x10000) / 0x400) ++ escapeUnit (0xDC00 + (n - 0x10000) % 0x400)

def writeString (s : String) : List Char :=
  Text.doubleQuote :: (s.toList.flatMap writeChar ++ [Text.doubleQuote])

mutual

/-- A value on one line. -/
def compact : Json → List Char
  | .null => "null".toList
  | .bool true => "true".toList
  | .bool false => "false".toList
  | .int n => Decimal.integerText n
  | .float x => Decimal.floatText x
  | .string s => writeString s
  | .array items => '[' :: (compactItems items ++ [']'])
  | .object members => '\x7b' :: (compactMembers members ++ ['\x7d'])

/-- The items of an array, with commas between them. -/
def compactItems : List Json → List Char
  | [] => []
  | [item] => compact item
  | item :: next :: rest => compact item ++ ',' :: compactItems (next :: rest)

/-- The members of an object, with commas between them. -/
def compactMembers : List (String × Json) → List Char
  | [] => []
  | [(name, value)] => writeString name ++ ':' :: compact value
  | (name, value) :: next :: rest =>
    writeString name ++ ':' :: (compact value ++ ',' :: compactMembers (next :: rest))

end

def newLine (level : Nat) : List Char := '\n' :: List.replicate (2 * level) ' '

mutual

/-- A value over several lines, its first line standing at the given level of nesting. -/
def indentedAt (level : Nat) : Json → List Char
  | .array (item :: rest) =>
    '[' :: (newLine (level + 1) ++ indentedItems (level + 1) (item :: rest) ++
      newLine level ++ [']'])
  | .object (member :: rest) =>
    '\x7b' :: (newLine (level + 1) ++ indentedMembers (level + 1) (member :: rest) ++
      newLine level ++ ['\x7d'])
  | value => compact value

/-- The items of an array, one on a line. -/
def indentedItems (level : Nat) : List Json → List Char
  | [] => []
  | [item] => indentedAt level item
  | item :: next :: rest =>
    indentedAt level item ++ ',' :: (newLine level ++ indentedItems level (next :: rest))

/-- The members of an object, one on a line. -/
def indentedMembers (level : Nat) : List (String × Json) → List Char
  | [] => []
  | [(name, value)] => writeString name ++ ':' :: ' ' :: indentedAt level value
  | (name, value) :: next :: rest =>
    writeString name ++ ':' :: ' ' :: (indentedAt level value ++ ',' ::
      (newLine level ++ indentedMembers level (next :: rest)))

end

/-- A value over several lines. -/
def indented (value : Json) : String := String.ofList (indentedAt 0 value)

end TypeMismatch.Json
