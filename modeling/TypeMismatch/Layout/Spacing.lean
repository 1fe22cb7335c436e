import TypeMismatch.Text.Blank

/-!
# Removing the spacing of the input

Blanks around arrows and around delimiters carry no meaning: they are dropped, and the layout puts
its own in their place.  Blanks between other characters are kept.
-/

namespace TypeMismatch.Layout

/-- A delimiter that takes no blanks on either side. -/
def isTight (c : Char) : Bool :=
  c == '\x7b' || c == '\x7d' || c == '|' || c == ';' || c == ',' || c == '<' || c == '>'

/-- Drops the blanks around arrows.  `pending` are the blanks read since the last other character,
the last one first; it is `none` right after an arrow, where blanks are dropped.  -/
def tightenArrows (pending : Option (List Char)) : List Char → List Char
  | [] => (pending.getD []).reverse
  | '=' :: '>' :: rest => '=' :: '>' :: tightenArrows none rest
  | c :: rest =>
    if Text.isBlank c then tightenArrows (pending.map (c :: ·)) rest
    else (pending.getD []).reverse ++ c :: tightenArrows (some []) rest

/-- Drops the blanks around delimiters, in the same way. -/
def tightenDelimiters (pending : Option (List Char)) : List Char → List Char
  | [] => (pending.getD []).reverse
  | c :: rest =>
    if isTight c then c :: tightenDelimiters none rest
    else if Text.isBlank c then tightenDelimiters (pending.map (c :: ·)) rest
    else (pending.getD []).reverse ++ c :: tightenDelimiters (some []) rest

/-- The text without blanks at its ends and around arrows and delimiters. -/
def tighten (cs : List Char) : List Char :=
  tightenDelimiters (some []) (tightenArrows (some []) (Text.trim cs))

end TypeMismatch.Layout
