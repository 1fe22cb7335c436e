/-!
# What only the platform knows

A pattern may give a character by its name, and which names there are is a table of the platform.
So is how deep parentheses, arrays and objects may lie in one another before a reader has no room
left: the depth is no rule of patterns or of JSON, it depends on what else is running.  The readers
take both as an argument, and what is proved about them holds on every platform.
-/

namespace TypeMismatch

/-- The names of characters and the room for readers. -/
structure Platform where
  /-- The character with a name. -/
  characterNamed? : String → Option Char
  /-- Do the parentheses of a pattern lie too deep in one another? -/
  patternTooDeep : String → Bool
  /-- Do the arrays and objects of a JSON text lie too deep in one another? -/
  jsonTooDeep : List Char → Bool

/-- A platform that knows no names and has room for everything. -/
def Platform.bare : Platform where
  characterNamed? _ := none
  patternTooDeep _ := false
  jsonTooDeep _ := false

end TypeMismatch
