import TypeMismatch.Pattern.Match

/-!
# Where a match can begin

A pattern that begins with a set is tried only at characters of that set.  The set is read with the
alphabet of the whole pattern, even where a part chooses another one.  When case is ignored, a set
with a letter in it does not restrict the places.
-/

namespace TypeMismatch.Pattern

/-- A set of characters, or all characters outside of it. -/
structure FirstSet where
  negated : Bool
  items : List SetItem
  deriving DecidableEq

/-- Does the code point have another form under the other case? -/
def Flags.isCased (f : Flags) (n : Nat) : Bool :=
  if f.unicode then Text.lowerCode n != n || Text.capitalCode n != n
  else (65 ≤ n && n ≤ 90) || (97 ≤ n && n ≤ 122)

/-- Does the member hold a letter?  A range beyond the basic plane counts as one that does. -/
def SetItem.hasCase (f : Flags) : SetItem → Bool
  | .code n => f.isCased n
  | .range low high =>
    lastBasic < high || (List.range' low (high + 1 - low)).any f.isCased
  | _ => false

/-- The set as it restricts places under some flags. -/
def FirstSet.under (f : Flags) (first : FirstSet) : Option FirstSet :=
  if f.ignoreCase && first.items.any (SetItem.hasCase f) then none else some first

/-- The members of a node that matches one character of a set. -/
def Node.members? : Node → Option (List SetItem)
  | .literal code => some [.code code]
  | .set false items => some items
  | .alt first second =>
    match first.members?, second.members? with
    | some items, some more => some (items ++ more)
    | _, _ => none
  | _ => none

def Node.firstSet? : Node → Flags → Option FirstSet
  | .set negated items, f => FirstSet.under f ⟨negated, items⟩
  | .seq .empty second, f => second.firstSet? f
  | .seq first _, f => first.firstSet? f
  | .group _ body, f => body.firstSet? f
  | .withFlags on off body, f => body.firstSet? (f.within on off)
  | .alt first second, f =>
    (Node.alt first second).members?.bind fun items => FirstSet.under f ⟨false, items⟩
  | _, _ => none

/-- Does the next character belong to the set? -/
def FirstSet.admits (f : Flags) (first : FirstSet) (s : Place) : Bool :=
  s.after.head?.any fun c => (first.items.any (SetItem.holds f c)) != first.negated

/-- The ways of a whole pattern, at the places where a match can begin. -/
def Node.begin (root : Node) (f : Flags) : Ways :=
  match root.firstSet? f with
  | none => root.run f
  | some first => fun k s =>
    if first.admits { f with ignoreCase := false } s then root.run f k s else none

end TypeMismatch.Pattern
