import TypeMismatch.Entries

/-!
# JSON values

A value keeps the order of the members of its objects, and tells integers, which are unbounded, from
floating-point numbers.
-/

namespace TypeMismatch

inductive Json where
  | null
  | bool (b : Bool)
  | int (n : Int)
  | float (x : Float)
  | string (s : String)
  | array (items : List Json)
  | object (members : List (String × Json))

namespace Json

inductive Kind where
  | null
  | bool
  | int
  | float
  | string
  | array
  | object
  deriving DecidableEq

def kind : Json → Kind
  | .null => .null
  | .bool _ => .bool
  | .int _ => .int
  | .float _ => .float
  | .string _ => .string
  | .array _ => .array
  | .object _ => .object

/-- The word for a sort of value in a message. -/
def Kind.word : Kind → String
  | .null => "NoneType"
  | .bool => "bool"
  | .int => "int"
  | .float => "float"
  | .string => "str"
  | .array => "list"
  | .object => "dict"

/-- A vacant value says nothing: null, false, zero, and the empty string, array and object. -/
def isVacant : Json → Bool
  | .null => true
  | .bool b => !b
  | .int n => n == 0
  | .float x => x == 0.0
  | .string s => s.isEmpty
  | .array items => items.isEmpty
  | .object members => members.isEmpty

/-- The value of a member, null when there is no such member. -/
def member (members : Entries Json) (name : String) : Json := (Entries.get? name members).getD .null

end Json

end TypeMismatch
