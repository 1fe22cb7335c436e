import TypeMismatch.Text.Printable

/-!
# Quoted text

A quoted text stands between two equal quotes and shows every character that is not printable by an
escape.  Single quotes are used, unless the text holds a single quote and no double quote.
-/

namespace TypeMismatch.Text

/-- The digit of a value below sixteen, in lower case. -/
def hexDigit (n : Nat) : Char :=
  if n < 10 then Char.ofNat (48 + n) else Char.ofNat (87 + n)

/-- The last `width` hexadecimal digits of a number. -/
def hexDigits : (width : Nat) → (n : Nat) → List Char
  | 0, _ => []
  | width + 1, n => hexDigits width (n / 16) ++ [hexDigit (n % 16)]

def singleQuote : Char := Char.ofNat 39

def doubleQuote : Char := Char.ofNat 34

/-- Single quotes, unless only they occur in the text. -/
def chooseQuote (cs : List Char) : Char :=
  if cs.contains singleQuote && !cs.contains doubleQuote then doubleQuote else singleQuote

/-- One character of a quoted text. -/
def quoteChar (quote : Char) (c : Char) : List Char :=
  let n := c.toNat
  if c == quote || c == '\\' then ['\\', c]
  else if c == '\t' then ['\\', 't']
  else if c == '\n' then ['\\', 'n']
  else if c == '\r' then ['\\', 'r']
  else if isPrintable c then [c]
  else if n < 0x100 then '\\' :: 'x' :: hexDigits 2 n
  else if n < 0x10000 then '\\' :: 'u' :: hexDigits 4 n
  else '\\' :: 'U' :: hexDigits 8 n

/-- The quoted form of a text. -/
def quoted (cs : List Char) : List Char :=
  let quote := chooseQuote cs
  quote :: (cs.flatMap (quoteChar quote) ++ [quote])

def quote (s : String) : String := String.ofList (quoted s.toList)

end TypeMismatch.Text
