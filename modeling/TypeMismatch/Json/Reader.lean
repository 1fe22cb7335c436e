import TypeMismatch.Decimal.Notation
import TypeMismatch.Json.Value
import TypeMismatch.Platform
import TypeMismatch.Text.Digit
import TypeMismatch.Text.Location

/-!
# Reading JSON

The reader follows the JSON grammar, and takes `NaN`, `Infinity` and `-Infinity` as numbers beside
it.  It stops at the first fault and says where: the number of characters before it, which the
message turns into a line and a column as well.

A string is a list of characters, so one that gives half of a pair of code units is not read.  How
deep arrays and objects may lie in one another is for the platform to say.  The recursion is bounded
by the length of the text: each step takes a character, and the bound stays above twice the number
of those that are left.
-/

namespace TypeMismatch.Json

/-- What can be wrong with a text that should be JSON. -/
inductive Fault where
  | expectedValue
  | expectedName
  | expectedColon
  | expectedComma
  | unterminatedString
  | controlCharacter
  | badEscape
  | badUnicodeEscape
  | extraData
  | byteOrderMark
  deriving DecidableEq

def Fault.message : Fault → String
  | .expectedValue => "Expecting value"
  | .expectedName => "Expecting property name enclosed in double quotes"
  | .expectedColon => "Expecting ':' delimiter"
  | .expectedComma => "Expecting ',' delimiter"
  | .unterminatedString => "Unterminated string starting at"
  | .controlCharacter => "Invalid control character at"
  | .badEscape => "Invalid \\escape"
  | .badUnicodeEscape => "Invalid \\uXXXX escape"
  | .extraData => "Extra data"
  | .byteOrderMark => "Unexpected UTF-8 BOM (decode using utf-8-sig)"

/-- Why a text was not read: a fault at a place, a numeral with more digits than are taken, half of
a pair of code units, which is JSON but no character, or arrays and objects that lie too deep in one
another. -/
inductive ReadError where
  | fault (cause : Fault) (position : Nat)
  | longNumeral
  | loneSurrogate
  | tooDeep
  deriving DecidableEq

def faultMessage (text : List Char) (cause : Fault) (position : Nat) : String :=
  let place := Text.locate text position
  s!"{cause.message}: line {place.line} column {place.column} (char {position})"

/-- What is left of a text, and the number of characters before it. -/
structure Cursor where
  position : Nat
  rest : List Char

namespace Cursor

/-- The cursor after its first `n` characters. -/
def advance (c : Cursor) (n : Nat) : Cursor := ⟨c.position + n, c.rest.drop n⟩

/-- Is the character one that may stand between tokens? -/
def isGap (c : Char) : Bool := c == ' ' || c == '\t' || c == '\n' || c == '\r'

/-- The cursor after the characters that may stand between tokens. -/
def skipGap (c : Cursor) : Cursor := c.advance (c.rest.takeWhile isGap).length

def fail {α : Type} (c : Cursor) (cause : Fault) : Except ReadError α :=
  .error (.fault cause c.position)

end Cursor

/-- The value of a hexadecimal digit. -/
def hexValue? (c : Char) : Option Nat :=
  if '0' ≤ c && c ≤ '9' then some (c.toNat - 48)
  else if 'a' ≤ c && c ≤ 'f' then some (c.toNat - 87)
  else if 'A' ≤ c && c ≤ 'F' then some (c.toNat - 55)
  else none

/-- The value of four hexadecimal digits at the start of a text. -/
def hexQuad? : List Char → Option Nat
  | a :: b :: c :: d :: _ => do
    let a ← hexValue? a
    let b ← hexValue? b
    let c ← hexValue? c
    let d ← hexValue? d
    some (((a * 16 + b) * 16 + c) * 16 + d)
  | _ => none

/-- Is the code unit half of a pair? -/
def isSurrogate (unit : Nat) : Bool := 0xD800 ≤ unit && unit ≤ 0xDFFF

/-- The character of a code unit; half of a pair has none. -/
def charOfUnit (unit : Nat) : Except ReadError Char :=
  if isSurrogate unit then .error .loneSurrogate else .ok (Char.ofNat unit)

/-- The character that a one-letter escape stands for. -/
def simpleEscape? : Char → Option Char
  | '"' => some '"'
  | '\\' => some '\\'
  | '/' => some '/'
  | 'b' => some (Char.ofNat 8)
  | 'f' => some (Char.ofNat 12)
  | 'n' => some '\n'
  | 'r' => some '\r'
  | 't' => some '\t'
  | _ => none

/-- The second half of a pair, at a cursor right after the first half.  It is looked for only where
at least one character would follow it. -/
def pairedUnit? (c : Cursor) : Except ReadError (Option Nat) :=
  match c.rest with
  | '\\' :: 'u' :: digits =>
    if (digits.take 5).length < 5 then .ok none
    else
      match hexQuad? digits with
      | none => (c.advance 1).fail .badUnicodeEscape
      | some unit => .ok (if 0xDC00 ≤ unit && unit ≤ 0xDFFF then some unit else none)
  | _ => .ok none

/-- The character of an escape by number, at a cursor on the letter `u`, and the cursor after it. -/
def readUnicodeEscape (c : Cursor) : Except ReadError (Char × Cursor) :=
  let digits := c.rest.drop 1
  if (digits.take 5).length < 5 then c.fail .badUnicodeEscape
  else
    match hexQuad? digits with
    | none => c.fail .badUnicodeEscape
    | some unit =>
      let next := c.advance 5
      if 0xD800 ≤ unit && unit ≤ 0xDBFF then
        match pairedUnit? next with
        | .error e => .error e
        | .ok (some low) =>
          .ok (Char.ofNat (0x10000 + (unit - 0xD800) * 0x400 + (low - 0xDC00)), next.advance 6)
        | .ok none => .error .loneSurrogate
      else do return (← charOfUnit unit, next)

/-- The rest of a string whose opening quote stands at `start`, `done` being the characters read so
far, the last one first. -/
def readString (start : Nat) : (fuel : Nat) → (done : List Char) → Cursor →
    Except ReadError (String × Cursor)
  | 0, _, _ => .error (.fault .unterminatedString start)
  | fuel + 1, done, c =>
    match c.rest with
    | [] => .error (.fault .unterminatedString start)
    | '"' :: _ => .ok (String.ofList done.reverse, c.advance 1)
    | '\\' :: [] => .error (.fault .unterminatedString start)
    | '\\' :: 'u' :: _ =>
      match readUnicodeEscape (c.advance 1) with
      | .error e => .error e
      | .ok (x, next) => readString start fuel (x :: done) next
    | '\\' :: letter :: _ =>
      match simpleEscape? letter with
      | none => c.fail .badEscape
      | some x => readString start fuel (x :: done) (c.advance 2)
    | x :: _ =>
      if x.toNat < 32 then c.fail .controlCharacter
      else readString start fuel (x :: done) (c.advance 1)

/-- The number that decimal digits spell. -/
def naturalOf (digits : List Char) : Nat :=
  digits.foldl (fun n c => n * 10 + (c.toNat - 48)) 0

/-- Is the character a digit of a numeral? -/
def isDigit (c : Char) : Bool := '0' ≤ c && c ≤ '9'

/-- The digits before the point: a lone zero, or digits of which the first is no zero. -/
def wholeDigits (cs : List Char) : List Char :=
  match cs with
  | '0' :: _ => ['0']
  | _ => cs.takeWhile isDigit

/-- The digits after a point, when a point and at least one digit stand there. -/
def fractionDigits? : List Char → Option (List Char)
  | '.' :: rest =>
    let digits := rest.takeWhile isDigit
    if digits.isEmpty then none else some digits
  | _ => none

/-- The exponent and the length of its text, when one stands there. -/
def exponent? : List Char → Option (Int × Nat)
  | mark :: rest =>
    if mark == 'e' || mark == 'E' then
      let (negative, signs, body) :=
        match rest with
        | '-' :: body => (true, 1, body)
        | '+' :: body => (false, 1, body)
        | body => (false, 0, body)
      let digits := body.takeWhile isDigit
      if digits.isEmpty then none
      else
        let magnitude : Int := naturalOf digits
        some (if negative then -magnitude else magnitude, 1 + signs + digits.length)
    else none
  | [] => none

def readNumeral (c : Cursor) : Except ReadError (Json × Cursor) :=
  let (negative, signs, body) :=
    match c.rest with
    | '-' :: body => (true, 1, body)
    | body => (false, 0, body)
  let whole := wholeDigits body
  if whole.isEmpty then c.fail .expectedValue
  else
    let afterWhole := body.drop whole.length
    let fraction := fractionDigits? afterWhole
    let fractionLength := match fraction with
      | some digits => 1 + digits.length
      | none => 0
    let exponent := exponent? (afterWhole.drop fractionLength)
    let exponentLength := match exponent with
      | some (_, n) => n
      | none => 0
    let next := c.advance (signs + whole.length + fractionLength + exponentLength)
    match fraction, exponent with
    | none, none =>
      if Text.maxNumeralDigits < whole.length then .error .longNumeral
      else
        let n : Int := naturalOf whole
        .ok (.int (if negative then -n else n), next)
    | _, _ =>
      let digits := fraction.getD []
      let power := match exponent with
        | some (e, _) => e
        | none => 0
      let magnitude := Decimal.roundToFloat (naturalOf (whole ++ digits)) (power - digits.length)
      .ok (.float (if negative then -magnitude else magnitude), next)

def wordValues : List (String × Json) :=
  [("null", .null), ("true", .bool true), ("false", .bool false), ("NaN", .float (0.0 / 0.0)),
    ("Infinity", .float (1.0 / 0.0)), ("-Infinity", .float (-1.0 / 0.0))]

/-- The word value that stands at the start of a text, and its length. -/
def wordValue? (cs : List Char) : Option (Json × Nat) :=
  wordValues.findSome? fun (word, value) =>
    if word.toList.isPrefixOf cs then some (value, word.length) else none

mutual

/-- One value. -/
def readValue : (fuel : Nat) → Cursor → Except ReadError (Json × Cursor)
  | 0, c => c.fail .expectedValue
  | fuel + 1, c =>
    match c.rest with
    | '"' :: _ =>
      match readString c.position fuel [] (c.advance 1) with
      | .error e => .error e
      | .ok (s, next) => .ok (.string s, next)
    | '[' :: _ =>
      let inner := (c.advance 1).skipGap
      match inner.rest with
      | ']' :: _ => .ok (.array [], inner.advance 1)
      | _ => readItems fuel [] inner
    | '{' :: _ =>
      let inner := (c.advance 1).skipGap
      match inner.rest with
      | '}' :: _ => .ok (.object [], inner.advance 1)
      | _ => readMembers fuel [] inner
    | cs =>
      match wordValue? cs with
      | some (value, n) => .ok (value, c.advance n)
      | none => readNumeral c

/-- The rest of an array, `done` being its items so far, the last one first. -/
def readItems : (fuel : Nat) → (done : List Json) → Cursor →
    Except ReadError (Json × Cursor)
  | 0, _, c => c.fail .expectedValue
  | fuel + 1, done, c =>
    match readValue fuel c with
    | .error e => .error e
    | .ok (value, next) =>
      let after := next.skipGap
      match after.rest with
      | ']' :: _ => .ok (.array (value :: done).reverse, after.advance 1)
      | ',' :: _ => readItems fuel (value :: done) (after.advance 1).skipGap
      | _ => after.fail .expectedComma

/-- The rest of an object, `done` being its members so far. -/
def readMembers : (fuel : Nat) → (done : List (String × Json)) → Cursor →
    Except ReadError (Json × Cursor)
  | 0, _, c => c.fail .expectedName
  | fuel + 1, done, c =>
    match c.rest with
    | '"' :: _ =>
      match readString c.position fuel [] (c.advance 1) with
      | .error e => .error e
      | .ok (name, afterName) =>
        let colon := afterName.skipGap
        match colon.rest with
        | ':' :: _ =>
          match readValue fuel (colon.advance 1).skipGap with
          | .error e => .error e
          | .ok (value, next) =>
            let members := Entries.put name value done
            let after := next.skipGap
            match after.rest with
            | '}' :: _ => .ok (.object members, after.advance 1)
            | ',' :: _ => readMembers fuel members (after.advance 1).skipGap
            | _ => after.fail .expectedComma
        | _ => colon.fail .expectedColon
    | _ => c.fail .expectedName

end

/-- Reads a whole text as one JSON value, with room for arrays and objects of any depth. -/
def readWhole (text : List Char) : Except ReadError Json :=
  let start : Cursor := ⟨0, text⟩
  if text.head? == some (Char.ofNat 0xFEFF) then start.fail .byteOrderMark
  else
    match readValue (2 * text.length + 2) start.skipGap with
    | .error e => .error e
    | .ok (value, next) =>
      let after := next.skipGap
      if after.rest.isEmpty then .ok value else after.fail .extraData

/-- Reads a whole text as one JSON value on a platform, which may run out of room. -/
def read (platform : Platform) (text : List Char) : Except ReadError Json :=
  if platform.jsonTooDeep text then .error .tooDeep else readWhole text

end TypeMismatch.Json
