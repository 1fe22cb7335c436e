import TypeMismatch.Failure
import TypeMismatch.Pattern.Compiled

/-!
# Message templates

A template says how a message names the two types it compares: a pattern with two groups, and the
labels under which the captured types are shown.  `Template.ofJson` builds one from values of any
kind and refuses everything that is no template; the faults are looked for in a fixed order, so a
value with several of them is always refused for the same one.
-/

namespace TypeMismatch

/-- The labels of the actual and of the expected type. -/
structure Labels where
  actual : String
  expected : String
  deriving DecidableEq

/-- A named rule that finds two types in a message. -/
structure Template where
  name : String
  pattern : Pattern
  labels : Labels
  deriving DecidableEq

namespace Template

def capturedText? (place : Pattern.Place) (group : Nat) : Option String :=
  match place.captured? group with
  | some (c :: cs) => some (String.ofList (c :: cs))
  | _ => none

/-- The two types that a message names, unless the pattern is not found or captures nothing for one
of them. -/
def match? (t : Template) (message : String) : Option (String × String) := do
  let place ← t.pattern.search message.toList
  let actual ← capturedText? place 1
  let expected ← capturedText? place 2
  return (actual, expected)

def checkName : Json → Except Failure String
  | .string name => if name.isEmpty then .error (.template none .nameless) else .ok name
  | _ => .error (.template none .nameless)

def readPattern (platform : Platform) (name : String) : Json → Except Failure Pattern
  | .null => .error (.template (some name) .missingPattern)
  | .string source =>
    if source.isEmpty then .error (.template (some name) .missingPattern)
    else
      match Pattern.compileOn platform source with
      | .ok pattern => .ok pattern
      | .error (.fault cause position) =>
        let message := Pattern.faultMessage source.toList cause position
        .error (.template (some name) (.invalidPattern message))
      | .error refusal => .error (.pattern refusal)
  | value => .error (.template (some name) (.patternKind value.kind))

/-- A pattern needs one group for each type. -/
def checkGroups (name : String) (pattern : Pattern) : Except Failure Unit :=
  if pattern.groups = requiredGroups then .ok ()
  else .error (.template (some name) (.groupCount pattern.groups))

/-- Reads the labels of the template with the given name: the first two items of an array, both of
which are strings.  A value that has no length, and an object with two or more members, cannot be
looked at in this way. -/
def readLabels (name : String) : Json → Except Failure Labels
  | .null => .error (.template (some name) .missingLabels)
  | .string _ => .error (.template (some name) .missingLabels)
  | .array (.string actual :: .string expected :: _) => .ok ⟨actual, expected⟩
  | .array (_ :: _ :: _) => .error (.template (some name) .labelKind)
  | .array _ => .error (.template (some name) .missingLabels)
  | .object (_ :: _ :: _) => .error .unusable
  | .object _ => .error (.template (some name) .missingLabels)
  | _ => .error .unusable

/-- A template with a pattern that has been read already. -/
def ofPattern (name : Json) (pattern : Pattern) (labels : Json) : Except Failure Template := do
  let name ← checkName name
  checkGroups name pattern
  return ⟨name, pattern, ← readLabels name labels⟩

/-- A template from values of any kind. -/
def ofJson (platform : Platform) (name pattern labels : Json) : Except Failure Template := do
  let pattern ← readPattern platform (← checkName name) pattern
  ofPattern name pattern labels

end Template

end TypeMismatch
