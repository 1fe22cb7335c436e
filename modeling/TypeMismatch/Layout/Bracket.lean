/-!
# Brackets and arrows

The brackets in which separators stay on their line: angle brackets, parentheses and index brackets.
The second character of an arrow closes nothing.
-/

namespace TypeMismatch.Layout

def isOpener (c : Char) : Bool := c == '<' || c == '(' || c == '['

/-- Does the character close a bracket? -/
def isCloser (c : Char) : Bool := c == '>' || c == ')' || c == ']'

/-- The number of open brackets after a character.  A bracket that closes none changes nothing. -/
def depthAfter (depth : Nat) (c : Char) : Nat :=
  if isOpener c then depth + 1 else if isCloser c then depth - 1 else depth

end TypeMismatch.Layout
