import TypeMismatch.Edit.Distance
import TypeMismatch.Text.LetterCase
import TypeMismatch.Text.Slice

/-!
# Suggestions for a name that is not known

Known names within a few edits of the unknown one are suggested, whatever their case, the nearest
first and equally near ones in alphabetical order.
-/

namespace TypeMismatch.Suggestion

/-- A known name and its distance from the unknown one. -/
abbrev Ranked := Nat × String

/-- Nearer names come first, equally near ones in alphabetical order. -/
def Ranked.le (a b : Ranked) : Bool := a.1 < b.1 || (a.1 == b.1 && !(b.2 < a.2))

/-- The lower-case form of a name. -/
def lowered (name : String) : List Char := Text.lower name.toList

/-- The distance of two names when case is ignored. -/
def nameDistance (a b : String) : Nat := Edit.distance (lowered a) (lowered b)

/-- Are the lengths of two names near enough for the names to be near? -/
def similarLength (maxDistance : Int) (a b : String) : Bool :=
  ((a.toList.length : Int) - b.toList.length).natAbs ≤ maxDistance

/-- The candidates within a distance of a name, in order, at most `limit` of them. -/
def similar (name : String) (candidates : List String) (maxDistance limit : Int) : List String :=
  let near := candidates.filter fun candidate => similarLength maxDistance candidate name
  let ranked := (near.map fun candidate => (nameDistance name candidate, candidate)).mergeSort
    Ranked.le
  Text.upTo limit ((ranked.filter fun r => (r.1 : Int) ≤ maxDistance).map (·.2))

/-- The greatest distance and the greatest number of the names in a hint. -/
def hintLimit : Int := 3

/-- A name between single quotes. -/
def inQuotes (name : String) : List Char := '\x27' :: (name.toList ++ ['\x27'])

/-- The names between quotes, with commas between them. -/
def listed : List String → List Char
  | [] => []
  | [name] => inQuotes name
  | name :: next :: rest => inQuotes name ++ ',' :: ' ' :: listed (next :: rest)

/-- A question that names the nearest candidates; empty when none is near. -/
def hint (name : String) (candidates : List String) : String :=
  match similar name candidates hintLimit hintLimit with
  | [] => ""
  | [only] => s!"did you mean '{only}'?"
  | several => "did you mean one of: " ++ String.ofList (listed several) ++ "?"

def withHint (message hint : String) : String :=
  if hint.isEmpty then message else s!"{message}; {hint}"

end TypeMismatch.Suggestion
