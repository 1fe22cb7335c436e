import TypeMismatch.Template.Standard

/-!
# The types that a message compares

Templates are tried in the order of their set, except that the one its code asks for comes first.
The code decides on the order only: whether any template matches does not depend on it.
-/

namespace TypeMismatch

/-- The two types found in a message, with the template that found them and its labels. -/
structure Mismatch where
  template : String
  labels : Labels
  actual : String
  expected : String
  deriving DecidableEq

namespace Mismatch

/-- The templates of a set in the order in which they are tried for a code. -/
def candidates (set : TemplateSet) (code : Json) : List Template :=
  match set.nameForCode? code with
  | none => Entries.values set.templates
  | some name =>
    let others := set.templates.filter fun entry => entry.1 != name
    (set.get? name).toList ++ Entries.values others

def ofTemplate? (message : String) (t : Template) : Option Mismatch :=
  (t.match? message).map fun (actual, expected) => ⟨t.name, t.labels, actual, expected⟩

/-- The first find of the templates of a set; an empty message names no types. -/
def ofMessage? (set : TemplateSet) (message : String) (code : Json) : Option Mismatch :=
  if message.isEmpty then none else (candidates set code).findSome? (ofTemplate? message)

end Mismatch

end TypeMismatch
