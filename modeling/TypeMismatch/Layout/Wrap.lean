import TypeMismatch.Text.Blank

/-!
# Wrapping long lines

A line that is longer than the limit is broken in front of each bar.  A bar at its end stays at the
end, and a part that is empty keeps its bar, so no character is lost.
-/

namespace TypeMismatch.Layout

/-- A line that continues a union: the indentation, the bar and the member, if there is one. -/
def continuation (indentation member : List Char) : List Char :=
  Text.trimRight (indentation ++ '|' :: ' ' :: member)

/-- Puts a bar at the end of the last line. -/
def withTrailingBar : List (List Char) → List (List Char)
  | [] => []
  | [line] => [line ++ [' ', '|']]
  | line :: next :: rest => line :: withTrailingBar (next :: rest)

/-- Breaks a line at its bars, whatever its length. -/
def wrapAtBars (line : List Char) : List (List Char) :=
  let body := Text.trimRight (Text.trimLeft line)
  let indentation := line.takeWhile Text.isBlank
  let trailing := body.getLast? == some '|'
  let members :=
    (Text.splitAt '|' (if trailing then body.dropLast else body)).map Text.trim
  match members with
  | first :: next :: rest =>
    let lines :=
      (if first.isEmpty then [] else [indentation ++ first]) ++
        (next :: rest).map (continuation indentation)
    if trailing then withTrailingBar lines else lines
  | _ => [line]

/-- The lines that a line becomes under a limit. -/
def wrap (limit : Nat) (line : List Char) : List (List Char) :=
  if line.length ≤ limit || !line.contains '|' then [line] else wrapAtBars line

end TypeMismatch.Layout
