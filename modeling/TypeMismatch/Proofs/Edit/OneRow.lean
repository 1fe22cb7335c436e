import TypeMismatch.Proofs.Edit.Changes

/-!
# One row is enough for the distance

`distance` keeps one row and writes each row of the table over the one before it.  The row holds,
after some items on the left, the cells of their row in the table but for the first cell, which is
the number of these items (`sweep_laterCells`); the cell to the left above, which has been
overwritten, is carried along.  So the last cell of the row is the last cell of the table.

The shorter sequence makes the row, so the sequences may have changed sides.  This does not matter,
since the distance is the same both ways (`backDistance_comm`).
-/

namespace TypeMismatch.Edit

variable {α : Type} [DecidableEq α]

/-! ## Both ways -/

theorem substitution_comm (x y : α) : substitution x y = substitution y x := by
  simp only [substitution, eq_comm]

/-- The distance is the same both ways. -/
theorem backDistance_comm (xs ys : List α) : backDistance xs ys = backDistance ys xs := by
  induction xs generalizing ys with
  | nil => simp
  | cons x xs ihx =>
    induction ys with
    | nil => simp
    | cons y ys ihy =>
      rw [backDistance_cons_cons, backDistance_cons_cons, ihx (y :: ys), ihx ys, ihy,
        substitution_comm x y]
      omega

/-! ## Writing over a row -/

/-- One row of the table is written over the row above it. -/
theorem overwrite_laterCells (x : α) (xs seen ys : List α) :
    overwrite x (backDistance xs seen) (backDistance (x :: xs) seen)
        (ys.zip (laterCells xs seen ys)) =
      ys.zip (laterCells (x :: xs) seen ys) := by
  induction ys generalizing seen with
  | nil => rfl
  | cons y ys ih =>
    have hcell := backDistance_cons_cons x y xs seen
    rw [substitution] at hcell
    simp only [laterCells, List.zip_cons_cons, overwrite, ← hcell]
    rw [ih (y :: seen)]

/-- The row after further items on the left. -/
theorem sweep_laterCells (xs right left : List α) :
    sweep xs.length (right.zip (laterCells xs [] right)) left =
      right.zip (laterCells (left.reverse ++ xs) [] right) := by
  induction left generalizing xs with
  | nil => rfl
  | cons x left ih =>
    have hrow := overwrite_laterCells x xs [] right
    rw [backDistance_nil_right, backDistance_nil_right, List.length_cons] at hrow
    have hrest := ih (x :: xs)
    rw [List.length_cons] at hrest
    rw [sweep, hrow, hrest, List.reverse_cons, List.append_assoc, List.singleton_append]

theorem getLast?_laterCells (xs seen : List α) {ys : List α} (h : ys ≠ []) :
    (laterCells xs seen ys).getLast? = some (backDistance xs (ys.reverse ++ seen)) := by
  have hpos : 0 < ys.length := List.length_pos_iff.2 h
  have hlast := getElem?_laterCells xs seen ys (show ys.length - 1 < ys.length by omega)
  rw [Nat.sub_add_cancel hpos, List.take_length] at hlast
  rw [List.getLast?_eq_getElem?, length_laterCells, hlast]

/-- The last cell of the one row, or the length of the longer sequence if the row has no cells. -/
theorem distanceTo_eq_backDistance (short long : List α) :
    distanceTo short long = backDistance long.reverse short.reverse := by
  have hrow : sweep 0 (short.zip (List.range' 1 short.length)) long =
      short.zip (laterCells long.reverse [] short) := by
    have hsweep := sweep_laterCells [] short long
    rwa [laterCells_nil_left, List.append_nil] at hsweep
  rw [distanceTo, hrow]
  by_cases hshort : short = []
  · simp [hshort]
  · have hlast : (short.zip (laterCells long.reverse [] short)).getLast?.map Prod.snd =
        some (backDistance long.reverse (short.reverse ++ [])) := by
      rw [← List.getLast?_map, List.map_snd_zip (length_laterCells _ _ _).le,
        getLast?_laterCells _ _ hshort]
    obtain ⟨⟨y, last⟩, hpair, hcell⟩ := Option.map_eq_some_iff.1 hlast
    rw [List.append_nil] at hcell
    simp only [hpair, ← hcell]

/-- The distance by one row is the distance by recursion. -/
theorem distance_eq_backDistance (a b : List α) :
    distance a b = backDistance a.reverse b.reverse := by
  rw [distance]
  split
  · rw [distanceTo_eq_backDistance, backDistance_comm]
  · rw [distanceTo_eq_backDistance]

/-- The distance by one row is the least number of changes. -/
theorem isLeast_distance (a b : List α) : IsLeast {n | Turns n a b} (distance a b) := by
  have hleast := isLeast_backDistance a.reverse b.reverse
  rw [← distance_eq_backDistance] at hleast
  simpa only [turns_reverse_iff] using hleast

/-- The last cell of the table is the distance of both sequences. -/
theorem getLast?_table (left right : List α) :
    ∃ row, (table left right).getLast? = some row ∧
      row.getLast? = some (backDistance left.reverse right.reverse) := by
  have hrow := getElem?_rowsFrom [] left right (Nat.le_refl left.length)
  have hcell := getElem?_prefixRow left.reverse right (Nat.le_refl right.length)
  rw [List.take_length, List.append_nil] at hrow
  rw [List.take_length] at hcell
  refine ⟨prefixRow left.reverse right, ?_, ?_⟩
  · rw [table, range_eq_prefixRow, List.getLast?_eq_getElem?, length_rowsFrom,
      Nat.add_sub_cancel, hrow]
  · rw [List.getLast?_eq_getElem?, length_prefixRow, Nat.add_sub_cancel, hcell]

/-- **One row gives the last cell of the table**, whichever sequence is shorter, and the same number
when the sequences change sides. -/
theorem distance_eq_last_cell (a b : List α) :
    (∃ row, (table a b).getLast? = some row ∧ row.getLast? = some (distance a b)) ∧
      distance a b = distance b a := by
  rw [distance_eq_backDistance a b, distance_eq_backDistance b a]
  exact ⟨getLast?_table a b, backDistance_comm a.reverse b.reverse⟩

end TypeMismatch.Edit
