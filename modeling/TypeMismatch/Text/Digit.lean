import TypeMismatch.Text.Blank

/-!
# Decimal digits of every script, and integers written with them

Every script with decimal digits has ten consecutive ones, so a script is known by its zero.
-/

namespace TypeMismatch.Text

/-- The zeros of the scripts beyond ASCII that have decimal digits. -/
def scriptZeros : List Nat :=
  [0x660, 0x6F0, 0x7C0, 0x966, 0x9E6, 0xA66, 0xAE6, 0xB66, 0xBE6, 0xC66, 0xCE6, 0xD66, 0xDE6,
   0xE50, 0xED0, 0xF20, 0x1040, 0x1090, 0x17E0, 0x1810, 0x1946, 0x19D0, 0x1A80, 0x1A90,
   0x1B50, 0x1BB0, 0x1C40, 0x1C50, 0xA620, 0xA8D0, 0xA900, 0xA9D0, 0xA9F0, 0xAA50, 0xABF0,
   0xFF10, 0x104A0, 0x10D30, 0x11066, 0x110F0, 0x11136, 0x111D0, 0x112F0, 0x11450, 0x114D0,
   0x11650, 0x116C0, 0x11730, 0x118E0, 0x11950, 0x11C50, 0x11D50, 0x11DA0, 0x16A60, 0x16AC0,
   0x16B50, 0x1D7CE, 0x1D7D8, 0x1D7E2, 0x1D7EC, 0x1D7F6, 0x1E140, 0x1E2F0, 0x1E950, 0x1FBF0]

/-- The value of a decimal digit of any script. -/
def digitValue? (c : Char) : Option Nat :=
  if c.toNat < 128 then
    if '0' ≤ c && c ≤ '9' then some (c.toNat - '0'.toNat) else none
  else
    (scriptZeros.find? fun first => first ≤ c.toNat && c.toNat < first + 10).map (c.toNat - ·)

/-- A decimal digit of any script. -/
def isDigit (c : Char) : Bool := (digitValue? c).isSome

/-- Numerals of more digits than this are refused. -/
def maxNumeralDigits : Nat := 4300

/-- Reads digits into a number.  One underscore may stand between two digits: `gap` says that the
last character was an underscore, so a digit has to follow. -/
def readDigits (value count : Nat) (gap : Bool) : List Char → Option (Nat × Nat)
  | [] => if gap then none else some (value, count)
  | c :: rest =>
    match digitValue? c with
    | some d => readDigits (value * 10 + d) (count + 1) false rest
    | none => if c == '_' && !gap then readDigits value count true rest else none

/-- The blanks that may stand around a numeral: all but the four information separators. -/
def isNumeralBlank (c : Char) : Bool := isBlank c && !(28 ≤ c.toNat && c.toNat ≤ 31)

/-- The integer that a text spells: blanks around it, one sign, digits of any script and single
underscores between digits are allowed. -/
def readInteger? (text : List Char) : Option Int :=
  let body := dropRight isNumeralBlank (text.dropWhile isNumeralBlank)
  let (negative, digits) :=
    match body with
    | '-' :: rest => (true, rest)
    | '+' :: rest => (false, rest)
    | _ => (false, body)
  match readDigits 0 0 true digits with
  | some (value, count) =>
    if maxNumeralDigits < count then none
    else some (if negative then -(value : Int) else (value : Int))
  | none => none

end TypeMismatch.Text
