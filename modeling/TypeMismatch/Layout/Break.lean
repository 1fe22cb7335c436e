import TypeMismatch.Layout.Bracket
import TypeMismatch.Text.Blank

/-!
# Breaking into lines

Outside of brackets a line ends after an opening brace, a comma, a semicolon and a bar, and a
closing brace begins a line.  Inside of brackets the same characters get blanks instead.
-/

namespace TypeMismatch.Layout

/-- A delimiter with the blanks that it gets inside of brackets. -/
def inBrackets (c : Char) : List Char :=
  if c == '\x7b' then ['\x7b', ' ']
  else if c == ';' then [';', ' ']
  else if c == ',' then [',', ' ']
  else if c == '|' then [' ', '|', ' ']
  else [c]

/-- A character with the line breaks that it gets outside of brackets. -/
def outsideBrackets (c : Char) : List Char :=
  if c == '\x7b' || c == ';' || c == ',' then [c, '\n']
  else if c == '|' then [' ', '|', '\n']
  else if c == '\x7d' then ['\n', '\x7d']
  else [c]

/-- The blank in front of an opening brace, unless it stands at the start, after a blank or a line
break that was written, or right after an opening bracket. -/
def gapBefore (c : Char) (last : Option Char) : List Char :=
  match last with
  | none => []
  | some d =>
    if c == '\x7b' && !(d == '\n' || d == ' ' || d == '<' || d == '(' || d == '[') then [' ']
    else []

/-- A piece inside of brackets, without the blanks at its end when a closing brace follows. -/
def closeUp (depth : Nat) (piece rest : List Char) : List Char :=
  if 0 < depth && rest.head? == some '\x7d' && piece.getLast? == some ' ' then Text.trimRight piece
  else piece

/-- What a character becomes, given the number of brackets open after it and the characters that
follow. -/
def pieceOf (depth : Nat) (c : Char) (rest : List Char) : List Char :=
  if depth == 0 && !isCloser c then outsideBrackets c
  else if c == '\x7d' then closeUp depth [' ', '\x7d'] rest
  else closeUp depth (inBrackets c) rest

/-- The last character written, given the one before and a piece. -/
def lastOf (last : Option Char) (piece : List Char) : Option Char := piece.getLast?.or last

/-- Breaks a text into lines; `depth` brackets are open, and `last` is the last character written.
-/
def breakLines (depth : Nat) (last : Option Char) : List Char → List Char
  | [] => []
  | '=' :: '>' :: rest =>
    let piece := closeUp depth [' ', '=', '>', ' '] rest
    piece ++ breakLines depth (lastOf last piece) rest
  | c :: rest =>
    let inner := depthAfter depth c
    let piece := gapBefore c last ++ pieceOf inner c rest
    piece ++ breakLines inner (lastOf last piece) rest

end TypeMismatch.Layout
