import TypeMismatch.Settings
import TypeMismatch.Settings.Value

/-!
# Putting overrides on top of settings

Overrides are an object whose members name settings.  Highlight groups and templates are added to
those that are there; any other value takes the place of the old one.  Members are looked at in
their order, so the first one with a name, a highlight group or a template that is refused decides
the failure; codes come after all templates, since they may name one of them; the remaining values
are checked last, in a fixed order.  Settings that are refused change nothing.
-/

namespace TypeMismatch.Settings

/-- Adds the template that a member describes; a member that is no object describes nothing. -/
def mergeTemplate (platform : Platform) (set : TemplateSet) (entry : String × Json) :
    Except Failure TemplateSet :=
  match entry.2 with
  | .object members =>
    set.register platform (.string entry.1) (Json.member members "pattern")
      (Json.member members "labels")
  | _ => set.register platform (.string entry.1) .null .null

/-- Adds the templates that a value describes. -/
def mergeTemplates (platform : Platform) (set : TemplateSet) : Json → Except Failure TemplateSet
  | .object entries => entries.foldlM (mergeTemplate platform) set
  | value => .error (Setting.templates.refuse (.templatesKind value.kind))

/-- Takes one member: its name has to be known, and highlight groups and templates are added. -/
def mergeMember (platform : Platform) (s : Settings) (member : String × Json) :
    Except Failure Settings :=
  match Setting.ofName? member.1 with
  | none => .error (Setting.unknown member.1)
  | some .highlightGroups => do
    return { s with
      highlightGroups := Entries.putAll s.highlightGroups (← readGroups member.2) }
  | some .templates => do
    return { s with templates := ← mergeTemplates platform s.templates member.2 }
  | some _ => .ok s

def mergeCodes (s : Settings) : Option Json → Except Failure Settings
  | none => .ok s
  | some (.object members) => do
    return { s with
      templates := ← s.templates.withCodes (TemplateSet.codesOfMembers members) }
  | some _ => .error (Setting.codes.refuse .codesKind)

/-- The value that overrides give to a setting. -/
def given? (members : Entries Json) (setting : Setting) : Option Json :=
  Entries.get? setting.name members

/-- Takes the values that replace the old ones. -/
def mergeValues (s : Settings) (members : Entries Json) : Except Failure Settings := do
  let value? := given? members
  let indent ← readIndent s.indent (value? .indent)
  let lineLimit ← readLineLimit s.lineLimit (value? .lineLimit)
  let showIcons ← readSwitch .showIcons s.showIcons (value? .showIcons)
  let autoOpenFloat ← readSwitch .autoOpenFloat s.autoOpenFloat (value? .autoOpenFloat)
  let markDifferences ← readSwitch .markDifferences s.markDifferences (value? .markDifferences)
  let showPreview ← readSwitch .showPreview s.showPreview (value? .showPreview)
  return { s with indent, lineLimit, showIcons, autoOpenFloat, markDifferences, showPreview }

/-- Puts the members of an object on top of settings. -/
def merge (platform : Platform) (s : Settings) (members : Entries Json) :
    Except Failure Settings := do
  let merged ← members.foldlM (mergeMember platform) s
  let merged ← merged.mergeCodes (given? members .codes)
  merged.mergeValues members

/-- What overrides make of settings; none when they say nothing, so that the settings stay. -/
def change? (platform : Platform) (base : Settings) (overrides : Json) :
    Except Failure (Option Settings) :=
  if overrides.isVacant then .ok none
  else
    match overrides with
    | .object members => do return some (← base.merge platform members)
    | value => .error (.setting none (.overridesKind value.kind))

/-- Puts overrides on top of settings. -/
def load (platform : Platform) (base : Settings) (overrides : Json) : Except Failure Settings := do
  return (← base.change? platform overrides).getD base

/-- Puts overrides on top of the standard settings with the given templates.  Overrides that bring
templates of their own add them, first of all, to the standard ones instead. -/
def loadWith (platform : Platform) (set : TemplateSet) (members : Entries Json) :
    Except Failure Settings :=
  let key := Setting.templates.name
  match Entries.get? key members with
  | none => merge platform { standard with templates := set } members
  | some value =>
    merge platform standard ((key, value) :: members.filter fun member => member.1 != key)

/-- Can a value for the setting be given when settings are made from values? -/
def isField (name : String) : Bool :=
  match Setting.ofName? name with
  | none => false
  | some setting => setting != .codes

/-- Settings are made with a ready set of templates, which no JSON value is. -/
def refuseTemplates : Option Json → Except Failure Unit
  | none => .ok ()
  | some value => .error (Setting.templates.refuse (.templateSetKind value.kind))

/-- Settings made from values, with the standard value for each that is not given. -/
def ofValues (values : Entries Json) : Except Failure Settings := do
  if values.all fun value => isField value.1 then
    let s ← standard.mergeValues values
    refuseTemplates (given? values .templates)
    match given? values .highlightGroups with
    | none => return s
    | some groups => return { s with highlightGroups := ← readGroups groups }
  else .error .unusable

end TypeMismatch.Settings
