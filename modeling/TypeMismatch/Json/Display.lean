import TypeMismatch.Decimal.Notation
import TypeMismatch.Json.Value
import TypeMismatch.Text.Quoted

/-!
# Values shown to a reader

A value that stands where a text is wanted is shown by its plain form.  A string is its own plain
form; inside an array or an object it is quoted, as are the names of members.  An integer with too
many digits is not shown, and neither is a value that holds one.
-/

namespace TypeMismatch.Json

mutual

/-- The form of a value with strings quoted. -/
def shown? : Json → Option (List Char)
  | .null => some "None".toList
  | .bool true => some "True".toList
  | .bool false => some "False".toList
  | .int n => Decimal.integerText? n
  | .float x => some (Decimal.floatText x)
  | .string s => some (Text.quoted s.toList)
  | .array items => do return '[' :: ((← shownItems? items) ++ [']'])
  | .object members => do return '\x7b' :: ((← shownMembers? members) ++ ['\x7d'])

/-- The items of an array, with commas between them. -/
def shownItems? : List Json → Option (List Char)
  | [] => some []
  | [item] => shown? item
  | item :: next :: rest => do
    return (← shown? item) ++ ',' :: ' ' :: (← shownItems? (next :: rest))

/-- The members of an object, with commas between them. -/
def shownMembers? : List (String × Json) → Option (List Char)
  | [] => some []
  | [(name, value)] => do return Text.quoted name.toList ++ ':' :: ' ' :: (← shown? value)
  | (name, value) :: next :: rest => do
    return Text.quoted name.toList ++ ':' :: ' ' ::
      ((← shown? value) ++ ',' :: ' ' :: (← shownMembers? (next :: rest)))

end

/-- The form of a value with strings quoted, as a string. -/
def display? (value : Json) : Option String := value.shown?.map String.ofList

/-- The plain form of a value: a string as it is, any other value as it is shown. -/
def plain? : Json → Option String
  | .string s => some s
  | value => value.display?

end TypeMismatch.Json
