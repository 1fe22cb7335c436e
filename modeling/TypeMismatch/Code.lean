import TypeMismatch.Json.Display
import TypeMismatch.Text.Blank

/-!
# Diagnostic codes

The code of a diagnostic may be given as a number or as a text, with or without the letters that
name the language.  Its normal form has neither those letters nor blanks around it.
-/

namespace TypeMismatch.Code

def isLetterT (c : Char) : Bool := c == 't' || c == 'T'

/-- Is the character an s?  The long s has the same capital. -/
def isLetterS (c : Char) : Bool := c == 's' || c == 'S' || c == 'ſ'

/-- The text without the two letters in front of the number. -/
def withoutLetters : List Char → List Char
  | c :: d :: rest => if isLetterT c && isLetterS d then rest else c :: d :: rest
  | cs => cs

def normalForm (cs : List Char) : List Char := withoutLetters (Text.trim cs)

/-- The normal form of a text, unless nothing is left of it. -/
def ofText? (cs : List Char) : Option String :=
  match normalForm cs with
  | [] => none
  | form => some (String.ofList form)

/-- The normal form of a code.  Null and truth values are no codes, nor is a value that cannot be
shown. -/
def normalize? : Json → Option String
  | .null => none
  | .bool _ => none
  | code => do ofText? (← code.plain?).toList

end TypeMismatch.Code
