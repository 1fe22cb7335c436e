/-!
# Blanks, trimming, words and lines

A blank is a character that separates words in any script.  The set is small and closed, so it is
written out.  The functions below work on lists of characters and lose nothing but blanks.
-/

namespace TypeMismatch.Text

/-- The blanks: the controls that move the cursor, the four information separators, the spaces and
the line and paragraph separators of Unicode. -/
def isBlank (c : Char) : Bool :=
  let n := c.toNat
  (9 ≤ n && n ≤ 13) || (28 ≤ n && n ≤ 32) || n == 0x85 || n == 0xA0 || n == 0x1680 ||
    (0x2000 ≤ n && n ≤ 0x200A) || n == 0x2028 || n == 0x2029 || n == 0x202F || n == 0x205F ||
    n == 0x3000

/-- The characters at which a text breaks into lines. -/
def isLineBreak (c : Char) : Bool :=
  let n := c.toNat
  (10 ≤ n && n ≤ 13) || (28 ≤ n && n ≤ 30) || n == 0x85 || n == 0x2028 || n == 0x2029

/-- The text without the characters at its end that satisfy `p`. -/
def dropRight (p : Char → Bool) : List Char → List Char
  | [] => []
  | c :: rest =>
    match dropRight p rest with
    | [] => if p c then [] else [c]
    | d :: kept => c :: d :: kept

/-- The text without the blanks at its start. -/
def trimLeft (cs : List Char) : List Char := cs.dropWhile isBlank

/-- The text without the blanks at its end. -/
def trimRight (cs : List Char) : List Char := dropRight isBlank cs

/-- The text without the blanks around it. -/
def trim (cs : List Char) : List Char := trimRight (trimLeft cs)

/-- The parts between the characters that satisfy `p`; one part more than there are such
characters. -/
def splitWhere (p : Char → Bool) : List Char → List (List Char)
  | [] => [[]]
  | c :: rest =>
    if p c then [] :: splitWhere p rest
    else
      match splitWhere p rest with
      | [] => [[c]]
      | part :: parts => (c :: part) :: parts

/-- The parts between the occurrences of a separator. -/
def splitAt (sep : Char) (cs : List Char) : List (List Char) := splitWhere (· == sep) cs

/-- The parts with a separator text between them. -/
def joinWith (sep : List Char) : List (List Char) → List Char
  | [] => []
  | [part] => part
  | part :: next :: parts => part ++ sep ++ joinWith sep (next :: parts)

/-- The longest runs of characters that are not blank. -/
def words (cs : List Char) : List (List Char) :=
  (splitWhere isBlank cs).filter fun part => !part.isEmpty

/-- The text up to its first line break. -/
def firstLine (cs : List Char) : List Char := cs.takeWhile fun c => !isLineBreak c

/-- The text with every line ending, of one or two characters, as a single newline. -/
def normalizeNewlines : List Char → List Char
  | [] => []
  | '\r' :: '\n' :: rest => '\n' :: normalizeNewlines rest
  | '\r' :: rest => '\n' :: normalizeNewlines rest
  | c :: rest => c :: normalizeNewlines rest

end TypeMismatch.Text
