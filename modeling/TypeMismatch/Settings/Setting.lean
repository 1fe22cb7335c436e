import TypeMismatch.Failure

/-!
# The names of settings

Overrides name the settings they change.  A name that is none of these is refused, with a hint at
the ones that are spelled nearly alike.
-/

namespace TypeMismatch

/-- What overrides can change. -/
inductive Setting where
  | autoOpenFloat
  | codes
  | highlightGroups
  | indent
  | lineLimit
  | showIcons
  | showPreview
  | templates
  | markDifferences
  deriving DecidableEq

namespace Setting

def name : Setting → String
  | .autoOpenFloat => "auto_open_float"
  | .codes => "codes"
  | .highlightGroups => "highlight_groups"
  | .indent => "indent"
  | .lineLimit => "max_line_length"
  | .showIcons => "show_icons"
  | .showPreview => "show_type_preview"
  | .templates => "templates"
  | .markDifferences => "use_diff_highlighting"

/-- All settings, in the alphabetical order of their names. -/
def all : List Setting :=
  [.autoOpenFloat, .codes, .highlightGroups, .indent, .lineLimit, .showIcons, .showPreview,
    .templates, .markDifferences]

def ofName? (name : String) : Option Setting := all.find? (·.name == name)

/-- The failure for a value that the setting does not take. -/
def refuse (setting : Setting) (fault : SettingFault) : Failure :=
  .setting (some setting.name) fault

def unknown (name : String) : Failure :=
  .setting (some name) (.unknownOption name (Suggestion.hint name (all.map Setting.name)))

end Setting

end TypeMismatch
