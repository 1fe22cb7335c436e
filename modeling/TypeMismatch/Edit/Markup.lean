import TypeMismatch.Edit.Script
import TypeMismatch.Text.Blank
import TypeMismatch.Token.Lexer

/-!
# Two expressions side by side

The script that turns one expression into another is written as two lines, one for each expression.
Tokens stand apart by one blank; those that are only on the left or only on the right stand between
marks.
-/

namespace TypeMismatch

/-- The marks around removed and added tokens. -/
structure Markers where
  removedOpen : String
  removedClose : String
  addedOpen : String
  addedClose : String

namespace Markers

/-- The usual marks. -/
def standard : Markers := ⟨"[-", "-]", "\x7b+", "+\x7d"⟩

/-- A removed text between its marks. -/
def removed (m : Markers) (text : String) : String := m.removedOpen ++ text ++ m.removedClose

/-- An added text between its marks. -/
def added (m : Markers) (text : String) : String := m.addedOpen ++ text ++ m.addedClose

end Markers

namespace Edit

/-- What the left line shows of a step. -/
def leftPiece (m : Markers) : Edit Token → Option String
  | .keep t => some t.text
  | .delete t => some (m.removed t.text)
  | .insert _ => none

/-- What the right line shows of a step. -/
def rightPiece (m : Markers) : Edit Token → Option String
  | .keep t => some t.text
  | .delete _ => none
  | .insert t => some (m.added t.text)

/-- Pieces with one blank between them. -/
def spaced (pieces : List String) : String :=
  String.ofList (Text.joinWith [' '] (pieces.map String.toList))

/-- Writes a script as two lines. -/
def render (m : Markers) (script : List (Edit Token)) : String × String :=
  (spaced (script.filterMap (leftPiece m)), spaced (script.filterMap (rightPiece m)))

/-- Writes two expressions as two lines with their differences marked.  When one of them has too
many tokens, nothing is marked.  -/
def diffWithin (m : Markers) (limit : Int) (a b : String) : String × String :=
  let left := Token.tokenize a
  let right := Token.tokenize b
  match align limit left right with
  | some script => render m script
  | none => (spaced (left.map Token.text), spaced (right.map Token.text))

/-- Writes two expressions as two lines with the usual marks and the usual limit. -/
def diff (a b : String) : String × String := diffWithin Markers.standard maxItems a b

end Edit

end TypeMismatch
