import TypeMismatch.Layout.Bracket
import TypeMismatch.Layout.Wrap

/-!
# Indenting lines

A line is indented once for each brace that is open before it.  Braces inside of brackets do not
count.  A line that closes a brace stands one level further out, and one that opens a brace puts the
lines after it one level further in.
-/

namespace TypeMismatch.Layout

/-- How nested blocks are shown: the unit of indentation, and the length beyond which a line is
wrapped. -/
structure Style where
  indent : List Char
  lineLimit : Nat

/-- What a line does to the nesting: the brackets open after it, and whether it opens and closes a
brace outside of brackets. -/
structure Effect where
  depth : Nat
  opens : Bool
  closes : Bool
  deriving DecidableEq

/-- The effect of one character after another; `last` is the one before. -/
def Effect.next (e : Effect) (last : Option Char) (c : Char) : Effect :=
  if isOpener c then { e with depth := e.depth + 1 }
  else if isCloser c then
    if c == '>' && last == some '=' then e else { e with depth := e.depth - 1 }
  else if e.depth == 0 then
    if c == '\x7d' then { e with closes := true }
    else if c == '\x7b' then { e with opens := true }
    else e
  else e

/-- The effect of the rest of a line. -/
def effectFrom (e : Effect) (last : Option Char) : List Char → Effect
  | [] => e
  | c :: rest => effectFrom (e.next last c) (some c) rest

/-- The unit of indentation, repeated. -/
def indentation (style : Style) (level : Nat) : List Char :=
  (List.replicate level style.indent).flatten

/-- Indents and wraps lines; `level` braces and `depth` brackets are open before them.  Empty lines
are dropped.  -/
def indentLines (style : Style) (level depth : Nat) : List (List Char) → List (List Char)
  | [] => []
  | line :: rest =>
    if line.isEmpty then indentLines style level depth rest
    else
      let effect := effectFrom ⟨depth, false, false⟩ none line
      let outer := if effect.closes then level - 1 else level
      let inner := if effect.opens then outer + 1 else outer
      wrap style.lineLimit (indentation style outer ++ line) ++
        indentLines style inner effect.depth rest

end TypeMismatch.Layout
