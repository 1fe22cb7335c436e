/-!
# The shortest decimal that reads back

A finite floating-point number of 64 bits stands for all reals that round to it.  Its shortest
decimal is the one with the fewest digits among these reals, and of several such decimals the one
nearest to the number, an exact tie going to the even digit.  All arithmetic is exact and on
natural numbers.
-/

namespace TypeMismatch.Decimal

/-- A positive number `mantissa · 2 ^ exponent`, and whether the next smaller one is nearer than the
next larger one. -/
structure Binary where
  mantissa : Nat
  exponent : Int
  narrowBelow : Bool

/-- Decodes the magnitude of the bit pattern of a finite number that is not zero. -/
def Binary.ofBits (bits : Nat) : Binary :=
  let fraction : Nat := bits % Nat.pow 2 52
  let biased : Nat := bits / Nat.pow 2 52 % Nat.pow 2 11
  if biased == 0 then ⟨fraction, -1074, false⟩
  else ⟨Nat.pow 2 52 + fraction, (biased : Int) - 1075, fraction == 0 && biased > 1⟩

/-- A ratio of natural numbers. -/
structure Ratio where
  num : Nat
  den : Nat

namespace Ratio

/-- The order of two ratios with positive denominators. -/
def le (a b : Ratio) : Bool := a.num * b.den ≤ b.num * a.den

/-- Strict order of two ratios with positive denominators. -/
def lt (a b : Ratio) : Bool := a.num * b.den < b.num * a.den

/-- `n · base ^ e` as a ratio. -/
def scaled (n base : Nat) (e : Int) : Ratio :=
  if 0 ≤ e then ⟨n * base.pow e.toNat, 1⟩ else ⟨n, base.pow (-e).toNat⟩

def distance (a b : Ratio) : Ratio :=
  let x := a.num * b.den
  let y := b.num * a.den
  ⟨if x ≤ y then y - x else x - y, a.den * b.den⟩

end Ratio

/-- Decimal digits and the exponent `e` of `digits · 10 ^ e`. -/
structure Digits where
  digits : Nat
  exponent : Int

/-- The reals that round to a number: the two ends and whether they belong to it. -/
structure Interval where
  low : Ratio
  high : Ratio
  closed : Bool

/-- The interval of a number; it is closed when the mantissa is even. -/
def Binary.interval (x : Binary) : Interval where
  low := Ratio.scaled (4 * x.mantissa - if x.narrowBelow then 1 else 2) 2 (x.exponent - 2)
  high := Ratio.scaled (4 * x.mantissa + 2) 2 (x.exponent - 2)
  closed := x.mantissa % 2 == 0

/-- Does a decimal round to the number that the interval belongs to? -/
def Interval.contains (i : Interval) (d : Digits) : Bool :=
  let value := Ratio.scaled d.digits 10 d.exponent
  if i.closed then i.low.le value && value.le i.high else i.low.lt value && value.lt i.high

/-- The least `k` with `x < 10 ^ k`, looked for from below; a binary exponent determines it up to
two steps. -/
def Binary.magnitude (x : Binary) : Int :=
  let log := x.exponent + Nat.log2 x.mantissa
  let guess := (log * 30103).fdiv 100000 - 1
  let value := Ratio.scaled x.mantissa 2 x.exponent
  let candidates := [guess, guess + 1, guess + 2, guess + 3]
  (candidates.find? fun k => value.lt (Ratio.scaled 1 10 k)).getD (guess + 3)

/-- The better of the two neighbours of a number on the grid of `10 ^ e`, among those that read
back. -/
def Binary.onGrid? (x : Binary) (e : Int) : Option Digits :=
  let value := Ratio.scaled x.mantissa 2 x.exponent
  let unit := Ratio.scaled 1 10 e
  let lower := value.num * unit.den / (value.den * unit.num)
  let below : Digits := ⟨lower, e⟩
  let above : Digits := ⟨lower + 1, e⟩
  let down := value.distance (Ratio.scaled lower 10 e)
  let up := value.distance (Ratio.scaled (lower + 1) 10 e)
  let interval := x.interval
  match interval.contains below, interval.contains above with
  | true, true =>
    if down.lt up then some below
    else if up.lt down then some above
    else if lower % 2 == 0 then some below else some above
  | true, false => some below
  | false, true => some above
  | false, false => none

/-- Drops the zeros at the end; `fuel` bounds their number. -/
def Digits.stripped : (fuel : Nat) → Digits → Digits
  | 0, d => d
  | fuel + 1, d =>
    if d.digits != 0 && d.digits % 10 == 0 then stripped fuel ⟨d.digits / 10, d.exponent + 1⟩ else d

/-- The shortest decimal of a number.  Seventeen digits always suffice. -/
def Binary.shortest (x : Binary) : Digits :=
  let k := x.magnitude
  let found := (List.range 17).findSome? fun (n : Nat) => x.onGrid? (k - 1 - (n : Int))
  (found.getD ⟨x.mantissa, x.exponent⟩).stripped 20

end TypeMismatch.Decimal
