/-!
# Sets of code points and case mappings as short tables

A character property of the Unicode standard is a set of code points that falls into a few hundred
intervals, and a case mapping moves whole intervals by one distance.  This file holds the two
lookups; the tables stand in the modules named for their properties.
-/

namespace TypeMismatch.Text

/-- An interval of code points, both ends included. -/
abbrev CodeRange := Nat × Nat

/-- Is the code point in one of the intervals?  The table is sorted, so the walk stops at the first
interval that begins beyond the code point. -/
def inRanges : List CodeRange → Nat → Bool
  | [], _ => false
  | (lo, hi) :: rest, n => if n < lo then false else n ≤ hi || inRanges rest n

/-- A case mapping of every `step`-th code point from `first` to `last`: each moves by `shift`. -/
structure CaseShift where
  first : Nat
  last : Nat
  step : Nat
  shift : Int

namespace CaseShift

/-- Does the mapping move this code point? -/
def covers (m : CaseShift) (n : Nat) : Bool :=
  m.first ≤ n && n ≤ m.last && (n - m.first) % m.step == 0

/-- Where the mapping sends a code point that it covers. -/
def apply (m : CaseShift) (n : Nat) : Nat := ((n : Int) + m.shift).toNat

/-- The code point that the mapping sends to `n`, if there is one. -/
def origin? (m : CaseShift) (n : Nat) : Option Nat :=
  let source := (n : Int) - m.shift
  if 0 ≤ source && m.covers source.toNat then some source.toNat else none

end CaseShift

/-- The image of a code point under a table of mappings; a code point in no mapping stays. -/
def shifted (table : List CaseShift) (n : Nat) : Nat :=
  match table.find? (·.covers n) with
  | some m => m.apply n
  | none => n

end TypeMismatch.Text
