import TypeMismatch.Edit.Distance

/-!
# The table holds the distances of prefixes

Scripts are read from the table backwards, so a pair of prefixes is given here with the last items
first.  `backDistance` is the distance of such a pair by recursion on its items; it does not mention
rows or columns.  `cell_table` says that each cell of the table is this distance.

Distances of neighbours differ by at most one (`backDistance_le_left`, `backDistance_le_right`), and
equal last items cost nothing (`backDistance_cons_self`).
-/

namespace TypeMismatch.Edit

variable {α : Type} [DecidableEq α]

/-- The distances of a sequence that has grown by `x`, given the distances from before. -/
def lengthen (x : α) (above : List α → Nat) : List α → Nat
  | [] => above [] + 1
  | y :: ys =>
    min (min (above (y :: ys) + 1) (lengthen x above ys + 1)) (above ys + substitution x y)

/-- The distance of two sequences, both given with their last item first. -/
def backDistance : List α → List α → Nat
  | [], ys => ys.length
  | x :: xs, ys => lengthen x (backDistance xs) ys

@[simp] theorem backDistance_nil_left (ys : List α) : backDistance [] ys = ys.length := rfl

@[simp] theorem backDistance_nil_right (xs : List α) : backDistance xs [] = xs.length := by
  induction xs with
  | nil => rfl
  | cons x xs ih => simp [backDistance, lengthen, ih]

theorem backDistance_cons_cons (x y : α) (xs ys : List α) :
    backDistance (x :: xs) (y :: ys) =
      min (min (backDistance xs (y :: ys) + 1) (backDistance (x :: xs) ys + 1))
        (backDistance xs ys + substitution x y) := rfl

/-! ## Neighbouring cells -/

theorem backDistance_cons_left_le (x : α) (xs ys : List α) :
    backDistance (x :: xs) ys ≤ backDistance xs ys + 1 := by
  cases ys with
  | nil => simp
  | cons y ys => rw [backDistance_cons_cons]; omega

theorem backDistance_cons_right_le (y : α) (xs ys : List α) :
    backDistance xs (y :: ys) ≤ backDistance xs ys + 1 := by
  cases xs with
  | nil => simp
  | cons x xs => rw [backDistance_cons_cons]; omega

/-- A further item on the right shortens the distance by at most one. -/
theorem backDistance_le_right (y : α) (xs ys : List α) :
    backDistance xs ys ≤ backDistance xs (y :: ys) + 1 := by
  induction xs generalizing y ys with
  | nil => simp; omega
  | cons x xs ih =>
    have hup := ih y ys
    have hstep := backDistance_cons_left_le x xs ys
    rw [backDistance_cons_cons]
    omega

/-- A further item on the left shortens the distance by at most one. -/
theorem backDistance_le_left (x : α) (xs ys : List α) :
    backDistance xs ys ≤ backDistance (x :: xs) ys + 1 := by
  induction ys generalizing x xs with
  | nil => simp; omega
  | cons y ys ih =>
    have hleft := ih x xs
    have hstep := backDistance_cons_right_le y xs ys
    rw [backDistance_cons_cons]
    omega

theorem backDistance_cons_self (x : α) (xs ys : List α) :
    backDistance (x :: xs) (x :: ys) = backDistance xs ys := by
  have hup := backDistance_le_right x xs ys
  have hleft := backDistance_le_left x xs ys
  rw [backDistance_cons_cons]
  simp only [substitution, ↓reduceIte]
  omega

theorem backDistance_cons_ne {x y : α} (h : x ≠ y) (xs ys : List α) :
    backDistance (x :: xs) (y :: ys) =
      min (min (backDistance xs (y :: ys)) (backDistance (x :: xs) ys)) (backDistance xs ys)
        + 1 := by
  rw [backDistance_cons_cons]
  simp only [substitution, if_neg h]
  omega

@[simp] theorem backDistance_self (xs : List α) : backDistance xs xs = 0 := by
  induction xs with
  | nil => rfl
  | cons x xs ih => rw [backDistance_cons_self, ih]

theorem eq_of_backDistance_eq_zero {xs ys : List α} (h : backDistance xs ys = 0) : xs = ys := by
  induction xs generalizing ys with
  | nil => exact (List.length_eq_zero_iff.1 h).symm
  | cons x xs ih =>
    cases ys with
    | nil => simp at h
    | cons y ys =>
      by_cases hxy : x = y
      · subst hxy
        rw [backDistance_cons_self] at h
        rw [ih h]
      · rw [backDistance_cons_ne hxy] at h
        omega

/-! ## Rows -/

/-- The cells of a row after those for `seen`, one for each further item on the right. -/
def laterCells (xs seen : List α) : List α → List Nat
  | [] => []
  | y :: ys => backDistance xs (y :: seen) :: laterCells xs (y :: seen) ys

/-- The row of a left prefix. -/
def prefixRow (xs right : List α) : List Nat := backDistance xs [] :: laterCells xs [] right

theorem cells_laterCells (x : α) (xs seen ys : List α) :
    cells x ys (backDistance xs seen) (backDistance (x :: xs) seen) (laterCells xs seen ys) =
      laterCells (x :: xs) seen ys := by
  induction ys generalizing seen with
  | nil => rfl
  | cons y ys ih =>
    simp only [laterCells, cells, ← backDistance_cons_cons]
    rw [ih (y :: seen)]

theorem nextRow_prefixRow (x : α) (xs right : List α) :
    nextRow x right (prefixRow xs right) = prefixRow (x :: xs) right := by
  have h := cells_laterCells x xs [] right
  simp only [backDistance_nil_right, List.length_cons] at h
  simp [nextRow, prefixRow, h]

theorem laterCells_nil_left (seen ys : List α) :
    laterCells [] seen ys = List.range' (seen.length + 1) ys.length := by
  induction ys generalizing seen with
  | nil => rfl
  | cons y ys ih => simp [laterCells, ih, List.range'_succ]

theorem range_eq_prefixRow (right : List α) :
    List.range (right.length + 1) = prefixRow [] right := by
  rw [prefixRow, laterCells_nil_left, List.range_eq_range', List.range'_succ]
  rfl

theorem getElem?_laterCells (xs seen ys : List α) {j : Nat} (hj : j < ys.length) :
    (laterCells xs seen ys)[j]? = some (backDistance xs ((ys.take (j + 1)).reverse ++ seen)) := by
  induction ys generalizing seen j with
  | nil => simp at hj
  | cons y ys ih =>
    cases j with
    | zero => simp [laterCells]
    | succ j =>
      have hj' : j < ys.length := by simpa using hj
      simp [laterCells, ih (y :: seen) hj']

theorem getElem?_prefixRow (xs right : List α) {j : Nat} (hj : j ≤ right.length) :
    (prefixRow xs right)[j]? = some (backDistance xs (right.take j).reverse) := by
  cases j with
  | zero => simp [prefixRow]
  | succ j => simp [prefixRow, getElem?_laterCells xs [] right (Nat.lt_of_succ_le hj)]

/-! ## The table -/

theorem getElem?_rowsFrom (xs left right : List α) {i : Nat} (hi : i ≤ left.length) :
    (rowsFrom right (prefixRow xs right) left)[i]? =
      some (prefixRow ((left.take i).reverse ++ xs) right) := by
  induction left generalizing xs i with
  | nil =>
    obtain rfl : i = 0 := by simpa using hi
    simp [rowsFrom]
  | cons x left ih =>
    cases i with
    | zero => simp [rowsFrom]
    | succ i =>
      have hi' : i ≤ left.length := by simpa using hi
      simp [rowsFrom, nextRow_prefixRow, ih (x :: xs) hi']

/-- **Each cell of the table is the distance of its prefixes.** -/
theorem cell_table (left right : List α) {i j : Nat} (hi : i ≤ left.length)
    (hj : j ≤ right.length) :
    cell (table left right) i j = backDistance (left.take i).reverse (right.take j).reverse := by
  rw [cell, table, range_eq_prefixRow, getElem?_rowsFrom [] left right hi]
  simp [getElem?_prefixRow _ right hj]

end TypeMismatch.Edit
