import TypeMismatch.Decimal.Shortest
import TypeMismatch.Text.Digit

/-!
# The written form of a number

An integer is written with all of its digits, unless there are too many.  Of a floating-point number
the digits are the shortest that read back.  A number from 0.0001 up to 10 ^ 16 is written
positionally with at least one digit after the point; any other has one digit before the point and
an exponent of at least two digits with its sign.
-/

namespace TypeMismatch.Decimal

/-- The decimal digits of a natural number. -/
def naturalText (n : Nat) : List Char := Nat.toDigits 10 n

/-- A number with a sign in front when it is negative. -/
def integerText (n : Int) : List Char :=
  if n < 0 then '-' :: naturalText n.natAbs else naturalText n.natAbs

/-- Are the digits of an integer not too many to be written?  The limit is the one for numerals that
are read. -/
def isWritable (n : Int) : Bool := (naturalText n.natAbs).length ≤ Text.maxNumeralDigits

/-- The written form of an integer, unless it has too many digits. -/
def integerText? (n : Int) : Option (List Char) :=
  if isWritable n then some (integerText n) else none

/-- Digits of which the first `point` stand before the decimal point. -/
def positional (digits : List Char) (point : Int) : List Char :=
  if point ≤ 0 then '0' :: '.' :: List.replicate (-point).toNat '0' ++ digits
  else
    let whole := point.toNat
    if digits.length ≤ whole then
      digits ++ List.replicate (whole - digits.length) '0' ++ ['.', '0']
    else digits.take whole ++ '.' :: digits.drop whole

/-- One digit, the others after the point, and the exponent of the first digit. -/
def scientific (digits : List Char) (exponent : Int) : List Char :=
  let mantissa :=
    match digits with
    | d :: next :: rest => d :: '.' :: next :: rest
    | short => short
  let magnitude := naturalText exponent.natAbs
  let padded := if magnitude.length < 2 then '0' :: magnitude else magnitude
  mantissa ++ 'e' :: (if exponent < 0 then '-' else '+') :: padded

/-- The written form of a positive decimal. -/
def Digits.text (d : Digits) : List Char :=
  let digits := naturalText d.digits
  let point := d.exponent + digits.length
  if -4 < point && point ≤ 16 then positional digits point else scientific digits (point - 1)

/-- The written form of a floating-point number. -/
def floatText (x : Float) : List Char :=
  let bits := x.toBits.toNat
  let magnitude := bits % Nat.pow 2 63
  let sign := if bits ≥ Nat.pow 2 63 then ['-'] else []
  if x.isNaN then ['n', 'a', 'n']
  else if x.isInf then sign ++ ['i', 'n', 'f']
  else if magnitude == 0 then sign ++ ['0', '.', '0']
  else sign ++ (Binary.ofBits magnitude).shortest.text

/-- The number that a decimal `digits · 10 ^ exponent` rounds to.  A decimal far outside the range
of the format is decided by its size alone. -/
def roundToFloat (digits : Nat) (exponent : Int) : Float :=
  if digits == 0 then 0.0
  else
    let size := exponent + (naturalText digits).length
    if size > 400 then 1.0 / 0.0
    else if size < -400 then 0.0
    else if exponent < 0 then Float.ofScientific digits true (-exponent).toNat
    else Float.ofScientific digits false exponent.toNat

end TypeMismatch.Decimal
