import TypeMismatch.Code
import TypeMismatch.Template

/-!
# Sets of templates

A set holds templates in the order in which they are tried, and for some diagnostic codes the
template to try first.  Adding a template or a code makes a new set; a step that fails adds nothing.
-/

namespace TypeMismatch

/-- Templates by name, in matching order, and names of templates by the normal form of a code. -/
structure TemplateSet where
  templates : Entries Template
  codes : Entries String
  deriving DecidableEq

namespace TemplateSet

/-- The set without templates and codes. -/
def empty : TemplateSet := ⟨[], []⟩

def names (set : TemplateSet) : List String := Entries.names set.templates

def get? (set : TemplateSet) (name : String) : Option Template := Entries.get? name set.templates

/-- The name of the template that a code asks for. -/
def nameForCode? (set : TemplateSet) (code : Json) : Option String := do
  Entries.get? (← Code.normalize? code) set.codes

def forCode? (set : TemplateSet) (code : Json) : Option Template := do
  set.get? (← set.nameForCode? code)

/-- The set with one more template, or with another one in the place of the template of that name.
-/
def add (set : TemplateSet) (template : Template) : TemplateSet :=
  { set with templates := Entries.put template.name template set.templates }

/-- The set with a template made from values of any kind. -/
def register (platform : Platform) (set : TemplateSet) (name pattern labels : Json) :
    Except Failure TemplateSet := do
  return set.add (← Template.ofJson platform name pattern labels)

/-- The set with a template whose pattern has been read already. -/
def registerPattern (set : TemplateSet) (name : Json) (pattern : Pattern) (labels : Json) :
    Except Failure TemplateSet := do
  return set.add (← Template.ofPattern name pattern labels)

def unknownName (set : TemplateSet) (key shown : String) : Failure :=
  .setting (some "codes") (.unknownTemplate key shown (Suggestion.hint shown set.names))

/-- Finds the name of a template that a value gives.  An array and an object are no names. -/
def resolveName (set : TemplateSet) (key : String) : Json → Except Failure String
  | .array _ => .error .unusable
  | .object _ => .error .unusable
  | .string name =>
    if Entries.has name set.templates then .ok name else .error (set.unknownName key name)
  | value => do .error (set.unknownName key (← value.written))

/-- The set with one more code, or with another template for a code. -/
def assign (set : TemplateSet) (code name : Json) : Except Failure TemplateSet :=
  match Code.normalize? code, code.display? with
  | some key, _ => do
    return { set with codes := Entries.put key (← set.resolveName key name) set.codes }
  | none, some shown => .error (.setting (some "codes") (.invalidCode shown))
  | none, none => .error .longNumeral

/-- The set with further codes, one after another. -/
def withCodes (set : TemplateSet) (codes : List (Json × Json)) : Except Failure TemplateSet :=
  codes.foldlM (fun sofar entry => sofar.assign entry.1 entry.2) set

/-- Codes that are given by the names of members. -/
def codesOfMembers (members : Entries Json) : List (Json × Json) :=
  members.map fun member => (.string member.1, member.2)

end TemplateSet

end TypeMismatch
