import TypeMismatch.Rendering

/-!
# Colors

On a terminal the parts of the output are told apart by colors.  Colors are added to a finished
text: the removed and added tokens of a comparison are found by their marks, on one line each.
-/

namespace TypeMismatch.Terminal

/-- The codes that switch colors and styles on, and the one that switches them off. -/
structure Palette where
  red : String
  green : String
  yellow : String
  cyan : String
  gray : String
  bold : String
  reset : String

/-- A control sequence of a terminal. -/
def control (code : String) : String := s!"\x1b[{code}m"

namespace Palette

def colored : Palette where
  red := control "91"
  green := control "92"
  yellow := control "93"
  cyan := control "96"
  gray := control "90"
  bold := control "1"
  reset := control "0"

def plain : Palette := ⟨"", "", "", "", "", "", ""⟩

/-- Colors are used on a terminal, unless the reader does not want them. -/
def choose (terminal : Bool) (unwanted : Option String) : Palette :=
  if terminal && (unwanted.getD "").isEmpty then colored else plain

def paint (p : Palette) (color text : String) : String := color ++ text ++ p.reset

def hasColors (p : Palette) : Bool := !p.reset.isEmpty

end Palette

/-- What stands behind a text at the start of another. -/
def afterStart? : List Char → List Char → Option (List Char)
  | [], cs => some cs
  | _ :: _, [] => none
  | d :: ds, c :: cs => if d == c then afterStart? ds cs else none

/-- The text up to and with a mark on the same line, and what is behind it. -/
def throughMark? (mark : List Char) : List Char → Option (List Char × List Char)
  | [] => if mark.isEmpty then some ([], []) else none
  | c :: cs =>
    match afterStart? mark (c :: cs) with
    | some rest => some (mark, rest)
    | none =>
      if c == '\n' then none
      else (throughMark? mark cs).map fun (part, rest) => (c :: part, rest)

/-- The text between two marks at the start of a text, with the marks, and what is behind it. -/
def marked? (openMark closeMark cs : List Char) : Option (List Char × List Char) := do
  let inner ← afterStart? openMark cs
  let (part, rest) ← throughMark? closeMark inner
  return (openMark ++ part, rest)

/-- Puts all texts between two marks between two codes.  Each round takes a character, so their
number bounds the rounds.  -/
def paintMarked (openMark closeMark before after : List Char) :
    (rounds : Nat) → List Char → List Char
  | 0, cs => cs
  | _ + 1, [] => []
  | rounds + 1, c :: cs =>
    match marked? openMark closeMark (c :: cs) with
    | some (part, rest) =>
      before ++ part ++ after ++ paintMarked openMark closeMark before after rounds rest
    | none => c :: paintMarked openMark closeMark before after rounds cs

/-- Puts all texts between two marks into a color. -/
def paintBetween (p : Palette) (color openMark closeMark : String) (cs : List Char) : List Char :=
  paintMarked openMark.toList closeMark.toList color.toList p.reset.toList cs.length cs

/-- Removed tokens in red and added ones in green. -/
def paintDiff (p : Palette) (text : String) : String :=
  if p.hasColors then
    let m := Markers.standard
    let removed := paintBetween p p.red m.removedOpen m.removedClose text.toList
    String.ofList (paintBetween p p.green m.addedOpen m.addedClose removed)
  else text

/-- Paints the lines below the heading of a block: a label is the first line, and each line behind
an empty one.  The first line is a label even if it is empty, but is not counted as an empty one.
-/
def paintLabels (p : Palette) (label first : Bool) : List String → List String
  | [] => []
  | line :: rest =>
    (if label then p.paint p.cyan line else line) ::
      paintLabels p (line.isEmpty && !first) false rest

/-- The heading of a block in bold, the line under it in gray and its labels in cyan; the types with
their differences in color. -/
def paintBlock (p : Palette) (text : String) : String :=
  match (Text.splitAt '\n' text.toList).map String.ofList with
  | title :: separator :: rest =>
    if p.hasColors && title == Rendering.title && separator == Rendering.separator then
      let heading := p.bold ++ p.paint p.red title
      paintDiff p (Rendering.inLines
        (heading :: p.paint p.gray separator :: paintLabels p true true rest))
    else text
  | _ => text

end TypeMismatch.Terminal
