/-!
# Prefixes by a signed length

A length that is negative counts from the end.
-/

namespace TypeMismatch.Text

/-- The first `n` elements, or all but the last `-n` when `n` is negative. -/
def upTo {α : Type} (n : Int) (xs : List α) : List α :=
  if 0 ≤ n then xs.take n.toNat else xs.take (xs.length - n.natAbs)

end TypeMismatch.Text
