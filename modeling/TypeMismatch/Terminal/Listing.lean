import TypeMismatch.Settings
import TypeMismatch.Terminal.Palette

/-!
# Listing templates

Templates are listed in matching order, each with its codes, its labels and its pattern.
-/

namespace TypeMismatch.Terminal

/-- The width of the column of names. -/
def nameWidth : Nat := 16

/-- A text with blanks behind it, up to a width. -/
def padded (width : Nat) (text : String) : String :=
  text ++ String.ofList (List.replicate (width - text.length) ' ')

/-- The order of texts by their characters. -/
def textLe (a b : String) : Bool := !(b < a)

/-- The codes for which a template is tried first, in order. -/
def codesFor (set : TemplateSet) (name : String) : List String :=
  (Entries.names (set.codes.filter fun entry => entry.2 == name)).mergeSort textLe

/-- The codes of a template as they are listed. -/
def codeColumn (set : TemplateSet) (name : String) : String :=
  match codesFor set name with
  | [] => "-"
  | codes => String.ofList (Text.joinWith [',', ' '] (codes.map fun code => s!"TS{code}".toList))

def listTemplate (p : Palette) (set : TemplateSet) (t : Template) : List String :=
  [ "  " ++ p.paint p.cyan (padded nameWidth t.name) ++ " " ++ codeColumn set t.name,
    "    " ++ p.paint p.gray "labels:" ++ "  " ++ t.labels.actual ++ " / " ++ t.labels.expected,
    "    " ++ p.paint p.gray "pattern:" ++ " " ++ t.pattern.source ]

def listTemplates (p : Palette) (set : TemplateSet) : List String :=
  let count := s!"{set.templates.length} templates"
  (p.paint p.bold count ++ " (in matching order)") ::
    (Entries.values set.templates).flatMap (listTemplate p set)

end TypeMismatch.Terminal
