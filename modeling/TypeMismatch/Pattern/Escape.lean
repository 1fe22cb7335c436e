import TypeMismatch.Pattern.Scanner
import TypeMismatch.Pattern.Syntax
import TypeMismatch.Text.Letter

/-!
# Escapes

An escape names a character, a class of characters, a place or a captured group.  Inside a set only
the first two are meaningful.  The functions below are given the character after the backslash, the
place of the backslash, and the scanner after both; those that may come to the name of a character
take the table of names.
-/

namespace TypeMismatch.Pattern

inductive Escape where
  | code (n : Nat)
  | item (i : SetItem)
  | anchor (a : Anchor)
  | reference (group : Nat)

/-- Is the character an octal digit? -/
def isOctal (c : Char) : Bool := '0' ≤ c && c ≤ '7'

/-- Is the character a hexadecimal digit? -/
def isHex (c : Char) : Bool :=
  ('0' ≤ c && c ≤ '9') || ('a' ≤ c && c ≤ 'f') || ('A' ≤ c && c ≤ 'F')

/-- The value of a digit of a base up to sixteen. -/
def digitOf (c : Char) : Nat :=
  if '0' ≤ c && c ≤ '9' then c.toNat - 48
  else if 'a' ≤ c && c ≤ 'f' then c.toNat - 87
  else c.toNat - 55

def numberOf (base : Nat) (digits : List Char) : Nat :=
  digits.foldl (fun n c => n * base + digitOf c) 0

/-- The text of an escape: the backslash, the character after it and the characters that follow. -/
def escapeText (c : Char) (more : List Char) : String := String.ofList ('\\' :: c :: more)

/-- The control character that a letter stands for. -/
def controlCode? : Char → Option Nat
  | 'a' => some 7
  | 'b' => some 8
  | 'f' => some 12
  | 'n' => some 10
  | 'r' => some 13
  | 't' => some 9
  | 'v' => some 11
  | '\\' => some 92
  | _ => none

/-- The class of characters that a letter stands for. -/
def classItem? : Char → Option SetItem
  | 'd' => some (.digit false)
  | 'D' => some (.digit true)
  | 's' => some (.space false)
  | 'S' => some (.space true)
  | 'w' => some (.word false)
  | 'W' => some (.word true)
  | _ => none

/-- The place that a letter stands for. -/
def anchor? : Char → Option Anchor
  | 'A' => some .textStart
  | 'Z' => some .textEnd
  | 'b' => some .wordBoundary
  | 'B' => some .notWordBoundary
  | _ => none

/-- The number of hexadecimal digits after a letter that names a character by number. -/
def hexWidth? : Char → Option Nat
  | 'x' => some 2
  | 'u' => some 4
  | 'U' => some 8
  | _ => none

/-- A character named by a fixed number of hexadecimal digits. -/
def hexEscape (c : Char) (width start : Nat) (s : Scanner) : Except Refusal (Nat × Scanner) := do
  let (digits, after) ← s.takeWhile isHex width
  let text := escapeText c digits
  if digits.length ≠ width then Scanner.refuse (.incompleteEscape text) start
  else
    let n := numberOf 16 digits
    if n > 0x10FFFF then Scanner.refuse (.badEscape text) start else return (n, after)

/-- The table of the names of characters. -/
abbrev CharacterNames := String → Option Char

/-- A character named by its name in braces. -/
def namedEscape (names : CharacterNames) (start : Nat) (s : Scanner) :
    Except Refusal (Nat × Scanner) := do
  let (opened, inner) ← s.accept '\x7b'
  if opened then
    let (name, after) ← inner.takeUntil '\x7d' "character name"
    let name := String.ofList name
    match names name with
    | some c => return (c.toNat, after)
    | none => Scanner.refuse (.undefinedCharacter name) start
  else Scanner.refuse .missingBrace s.position

/-- The escapes that mean the same everywhere, after those with one letter and those with digits:
numbers in base sixteen, names, and characters that stand for themselves. -/
def commonEscape (names : CharacterNames) (c : Char) (start : Nat) (s : Scanner) :
    Except Refusal (Nat × Scanner) :=
  match hexWidth? c with
  | some width => hexEscape c width start s
  | none =>
    if c == 'N' then namedEscape names start s
    else if Text.isAsciiLetter c || Text.isAsciiDigit c then
      Scanner.refuse (.badEscape (escapeText c [])) start
    else .ok (c.toNat, s)

def setEscape (names : CharacterNames) (c : Char) (start : Nat) (s : Scanner) :
    Except Refusal (SetItem × Scanner) :=
  match controlCode? c, classItem? c with
  | some n, _ => .ok (.code n, s)
  | none, some item => .ok (item, s)
  | none, none =>
    if isOctal c then do
      let (more, after) ← s.takeWhile isOctal 2
      let n := numberOf 8 (c :: more)
      if n > 255 then Scanner.refuse (.octalOutOfRange (escapeText c more)) start
      else return (.code n, after)
    else do
      let (n, after) ← commonEscape names c start s
      return (.code n, after)

/-- An escape with a digit other than zero outside of a set: three octal digits name a character,
and one or two digits a group.  Whether the group may be named here is left to the caller. -/
def digitEscape (c : Char) (start : Nat) (s : Scanner) : Except Refusal (Escape × Scanner) := do
  let (second, after) ← s.takeWhile Text.isAsciiDigit 1
  match second with
  | d :: _ =>
    if isOctal c && isOctal d then
      let (third, last) ← after.takeWhile isOctal 1
      match third with
      | e :: _ =>
        let n := numberOf 8 [c, d, e]
        if n > 255 then Scanner.refuse (.octalOutOfRange (escapeText c [d, e])) start
        else return (.code n, last)
      | [] => return (.reference (numberOf 10 [c, d]), after)
    else return (.reference (numberOf 10 [c, d]), after)
  | [] => return (.reference (digitOf c), after)

/-- An escape outside of a set. -/
def escape (names : CharacterNames) (c : Char) (start : Nat) (s : Scanner) :
    Except Refusal (Escape × Scanner) :=
  match anchor? c, classItem? c, controlCode? c with
  | some a, _, _ => .ok (.anchor a, s)
  | none, some item, _ => .ok (.item item, s)
  | none, none, some n => .ok (.code n, s)
  | none, none, none =>
    if c == '0' then do
      let (more, after) ← s.takeWhile isOctal 2
      return (.code (numberOf 8 ('0' :: more)), after)
    else if Text.isAsciiDigit c then digitEscape c start s
    else do
      let (n, after) ← commonEscape names c start s
      return (.code n, after)

end TypeMismatch.Pattern
