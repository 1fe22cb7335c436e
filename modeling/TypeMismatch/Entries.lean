/-!
# Entries by name

A list of named values in the order in which the names first came.  Putting a value under a name
that is there already replaces the value in its place, so each name occurs once.
-/

namespace TypeMismatch

/-- Named values, in order. -/
abbrev Entries (α : Type) := List (String × α)

namespace Entries

variable {α : Type}

def get? (name : String) : Entries α → Option α
  | [] => none
  | (key, value) :: rest => if key == name then some value else get? name rest

def has (name : String) (entries : Entries α) : Bool := (get? name entries).isSome

/-- Gives a name a value: in place if the name is there, else at the end. -/
def put (name : String) (value : α) : Entries α → Entries α
  | [] => [(name, value)]
  | (key, old) :: rest =>
    if key == name then (key, value) :: rest else (key, old) :: put name value rest

def putAll (entries more : Entries α) : Entries α :=
  more.foldl (fun sofar entry => put entry.1 entry.2 sofar) entries

def names (entries : Entries α) : List String := entries.map (·.1)

def values (entries : Entries α) : List α := entries.map (·.2)

end Entries

end TypeMismatch
