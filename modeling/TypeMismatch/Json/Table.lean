import TypeMismatch.Decimal.Shortest
import TypeMismatch.Json.Value

/-!
# Tables with values as keys

In a table a key occurs once.  Two numbers are the same key if they are equal, however they are
written; a truth value counts as the number zero or one.
-/

namespace TypeMismatch.Json

/-- The integer that a finite floating-point number is equal to, if there is one. -/
def integerOf? (x : Float) : Option Int :=
  if x == 0.0 then some 0
  else if !x.isFinite then none
  else
    let b := Decimal.Binary.ofBits x.abs.toBits.toNat
    let magnitude? :=
      if 0 ≤ b.exponent then some (b.mantissa * Nat.pow 2 b.exponent.toNat)
      else
        let unit := Nat.pow 2 b.exponent.natAbs
        if b.mantissa % unit == 0 then some (b.mantissa / unit) else none
    magnitude?.map fun n => if x < 0.0 then -(n : Int) else (n : Int)

/-- The integer that a value is equal to, if there is one. -/
def asInteger? : Json → Option Int
  | .bool b => some (if b then 1 else 0)
  | .int n => some n
  | .float x => integerOf? x
  | _ => none

/-- Are two values the same key? -/
def sameKey (a b : Json) : Bool :=
  match asInteger? a, asInteger? b with
  | some m, some n => m == n
  | none, none =>
    match a, b with
    | .null, .null => true
    | .float x, .float y => x == y
    | .string s, .string t => s == t
    | _, _ => false
  | _, _ => false

/-- Gives a key a value: in place if the key is there, else at the end. -/
def putKey (key value : Json) : List (Json × Json) → List (Json × Json)
  | [] => [(key, value)]
  | (k, v) :: rest => if sameKey k key then (k, value) :: rest else (k, v) :: putKey key value rest

/-- The table of some pairs: a key that comes again keeps its place and takes the last value. -/
def table (pairs : List (Json × Json)) : List (Json × Json) :=
  pairs.foldl (fun sofar pair => putKey pair.1 pair.2 sofar) []

end TypeMismatch.Json
