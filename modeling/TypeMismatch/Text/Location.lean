/-!
# Lines and columns

A fault in a text is reported by the number of characters before it, and for a reader by its line
and column, which count from one.
-/

namespace TypeMismatch.Text

/-- A line and a column, both counted from one. -/
structure Location where
  line : Nat
  column : Nat

/-- The place that follows the given characters. -/
def Location.after (cs : List Char) : Location where
  line := cs.count '\n' + 1
  column := (cs.reverse.takeWhile (· != '\n')).length + 1

/-- The place of the character with the given number of characters before it. -/
def locate (text : List Char) (position : Nat) : Location := Location.after (text.take position)

end TypeMismatch.Text
