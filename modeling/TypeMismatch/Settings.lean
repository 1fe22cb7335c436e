import TypeMismatch.Layout
import TypeMismatch.Template.Standard

/-!
# Settings

Settings are a value: they are made once, by putting overrides on top of other settings, and are
given to every operation that depends on them.
-/

namespace TypeMismatch

/-- How messages are read, laid out and shown. -/
structure Settings where
  /-- What stands before a line once for each level of nesting. -/
  indent : String
  /-- Lines that are longer are wrapped. -/
  lineLimit : Nat
  /-- Is an icon shown before a message, rather than a square? -/
  showIcons : Bool
  /-- Shall the editor open the whole message by itself? -/
  autoOpenFloat : Bool
  /-- Are the two types shown with their differences marked? -/
  markDifferences : Bool
  /-- Is the expected type shown beside the code? -/
  showPreview : Bool
  /-- The names under which an editor keeps its colors; they mean nothing here. -/
  highlightGroups : Entries String
  templates : TemplateSet
  deriving DecidableEq

namespace Settings

/-- The highlight groups of the standard settings. -/
def standardGroups : Entries String :=
  [ ("title", "DiagnosticError"),
    ("actual", "DiagnosticInfo"),
    ("expected", "DiagnosticHint"),
    ("separator", "Comment"),
    ("diff_add", "DiffAdd"),
    ("diff_delete", "DiffDelete"),
    ("diff_text", "DiffText") ]

def standard : Settings where
  indent := "  "
  lineLimit := 80
  showIcons := true
  autoOpenFloat := false
  markDifferences := true
  showPreview := true
  highlightGroups := standardGroups
  templates := Standard.templates

/-- How these settings lay out a type expression. -/
def style (s : Settings) : Layout.Style := ⟨s.indent.toList, s.lineLimit⟩

end Settings

end TypeMismatch
