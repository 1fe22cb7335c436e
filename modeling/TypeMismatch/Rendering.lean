import TypeMismatch.Edit.Markup
import TypeMismatch.Mismatch
import TypeMismatch.Settings
import TypeMismatch.Summary

/-!
# Showing a mismatch

A message whose types were found is shown as a block with both types, as one line, or as a preview
of the expected type.  A message in which no types were found is shown as it is.
-/

namespace TypeMismatch

/-- A text for the actual and one for the expected type. -/
abbrev Sides := String × String

/-- A mismatch in every form. -/
structure Rendering where
  mismatch : Mismatch
  verbose : Sides
  diff : Sides
  summary : Sides

namespace Rendering

/-- The heading of a block. -/
def title : String := "Type Mismatch"

/-- The line under the heading. -/
def separator : String := String.ofList (List.replicate 50 '=')

/-- What stands between the two types on one line. -/
def arrow : String := " → "

/-- What stands before the preview of the expected type. -/
def previewMark : String := "  ⮕ Expected: "

def iconMark : String := "●"

/-- The square before a message when icons are not shown. -/
def plainMark : String := "■"

/-- Both types laid out. -/
def laidOut (s : Settings) (m : Mismatch) : Sides :=
  (Layout.format s.style m.actual, Layout.format s.style m.expected)

/-- Both types with their differences marked. -/
def compared (m : Mismatch) : Sides := Edit.diff m.actual m.expected

/-- Both types in short. -/
def shortened (m : Mismatch) : Sides :=
  (Summary.summarize m.actual, Summary.summarize m.expected)

/-- A mismatch in every form. -/
def ofMismatch (s : Settings) (m : Mismatch) : Rendering :=
  ⟨m, laidOut s m, compared m, shortened m⟩

/-- The two texts of a block. -/
def blockSides (s : Settings) (m : Mismatch) : Sides :=
  if s.markDifferences then compared m else laidOut s m

/-- Lines with a newline between them. -/
def inLines (lines : List String) : String :=
  String.ofList (Text.joinWith ['\n'] (lines.map String.toList))

def block (labels : Labels) (sides : Sides) : String :=
  inLines [title, separator, labels.actual, sides.1, "", labels.expected, sides.2]

/-- The types that a message compares, under the templates of some settings. -/
def find? (s : Settings) (message : String) (code : Json) : Option Mismatch :=
  Mismatch.ofMessage? s.templates message code

def blockOf (s : Settings) (m : Mismatch) : String := block m.labels (blockSides s m)

def prettify (s : Settings) (message : String) (code : Json) : String :=
  match find? s message code with
  | some m => blockOf s m
  | none => message

/-- A message on one line: both types in short, or its own first line. -/
def oneLine (s : Settings) (message : String) (code : Json) : String :=
  match find? s message code with
  | some m => (shortened m).1 ++ arrow ++ (shortened m).2
  | none => String.ofList (Text.firstLine message.toList)

/-- The preview of the expected type, if it is wanted and known. -/
def preview? (s : Settings) (message : String) (code : Json) : Option String :=
  if s.showPreview then (find? s message code).map fun m => previewMark ++ (shortened m).2
  else none

def mark (s : Settings) : String := if s.showIcons then iconMark else plainMark

end Rendering

end TypeMismatch
