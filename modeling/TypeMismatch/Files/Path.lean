import TypeMismatch.Text.Blank

/-!
# Paths

A path is a list of steps, from the current directory or from the root.  Empty steps and steps that
stay in place are dropped when a path is read; steps upwards are kept.
-/

namespace TypeMismatch.Files

/-- A path: what stands before its first step, and its steps. -/
structure Path where
  root : String
  steps : List String
  deriving DecidableEq

namespace Path

/-- The step that stays in place. -/
def here : String := "."

/-- The step upwards. -/
def up : String := ".."

/-- What stands before the first step.  Two slashes differ from one, and from three or more, which
count as one. -/
def rootOf : List Char → String
  | '/' :: '/' :: '/' :: _ => "/"
  | '/' :: '/' :: _ => "//"
  | '/' :: _ => "/"
  | _ => ""

def ofText (text : String) : Path where
  root := rootOf text.toList
  steps := ((Text.splitAt '/' text.toList).map String.ofList).filter fun step =>
    !step.isEmpty && step != here

def text (p : Path) : String :=
  let steps := String.ofList (Text.joinWith ['/'] (p.steps.map String.toList))
  if p.root.isEmpty && p.steps.isEmpty then here else p.root ++ steps

end Path

end TypeMismatch.Files
