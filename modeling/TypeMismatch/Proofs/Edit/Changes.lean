import Mathlib.Order.Bounds.Basic
import TypeMismatch.Proofs.Edit.PrefixDistance
import TypeMismatch.Token.Lexer

/-!
# The table holds least numbers of changes

A change inserts, deletes or overwrites one item, anywhere in a sequence.  The distance of two
sequences is the least number of changes that lead from one to the other, whatever their order and
places, and the table holds these numbers for all pairs of prefixes (`table_least_changes`).

* No sequence of changes is too short: one change moves the distance from any third sequence by at
  most one (`Change.backDistance_le`).  The recursion of the distance takes items off the end only,
  so a change in the middle is reached by putting the items behind it back, one after another
  (`backDistance_cons_le_of_le`).
* As many changes are enough: the recursion itself names them (`turns_backDistance`).
-/

namespace TypeMismatch.Edit

variable {α : Type}

/-- One item is inserted, deleted or overwritten. -/
inductive Change : List α → List α → Prop
  | insert (u v : List α) (y : α) : Change (u ++ v) (u ++ y :: v)
  | delete (u v : List α) (x : α) : Change (u ++ x :: v) (u ++ v)
  | substitute (u v : List α) (x y : α) : Change (u ++ x :: v) (u ++ y :: v)

/-- A number of changes, one after another, lead from the first sequence to the second. -/
inductive Turns : Nat → List α → List α → Prop
  | refl (xs : List α) : Turns 0 xs xs
  | step {n : Nat} {xs ys zs : List α} (first : Change xs ys) (rest : Turns n ys zs) :
      Turns (n + 1) xs zs

theorem Change.cons {xs ys : List α} (h : Change xs ys) (c : α) : Change (c :: xs) (c :: ys) := by
  cases h with
  | insert u v y => exact .insert (c :: u) v y
  | delete u v x => exact .delete (c :: u) v x
  | substitute u v x y => exact .substitute (c :: u) v x y

theorem Change.reverse {xs ys : List α} (h : Change xs ys) : Change xs.reverse ys.reverse := by
  cases h with
  | insert u v y =>
    have h := Change.insert v.reverse u.reverse y
    simpa using h
  | delete u v x =>
    have h := Change.delete v.reverse u.reverse x
    simpa using h
  | substitute u v x y =>
    have h := Change.substitute v.reverse u.reverse x y
    simpa using h

theorem Turns.cons {n : Nat} {xs ys : List α} (h : Turns n xs ys) (c : α) :
    Turns n (c :: xs) (c :: ys) := by
  induction h with
  | refl xs => exact .refl (c :: xs)
  | step first _ ih => exact .step (first.cons c) ih

theorem Turns.reverse {n : Nat} {xs ys : List α} (h : Turns n xs ys) :
    Turns n xs.reverse ys.reverse := by
  induction h with
  | refl xs => exact .refl xs.reverse
  | step first _ ih => exact .step first.reverse ih

theorem turns_reverse_iff {n : Nat} {xs ys : List α} :
    Turns n xs.reverse ys.reverse ↔ Turns n xs ys := by
  constructor
  · intro h
    have h := h.reverse
    rwa [List.reverse_reverse, List.reverse_reverse] at h
  · exact Turns.reverse

theorem Change.length_le {xs ys : List α} (h : Change xs ys) :
    xs.length ≤ ys.length + 1 ∧ ys.length ≤ xs.length + 1 := by
  cases h <;> simp <;> omega

/-- Lengths differ by no more than the number of changes. -/
theorem Turns.length_le {n : Nat} {xs ys : List α} (h : Turns n xs ys) :
    xs.length ≤ ys.length + n ∧ ys.length ≤ xs.length + n := by
  induction h with
  | refl xs => exact ⟨Nat.le_refl _, Nat.le_refl _⟩
  | step first _ ih =>
    have hfirst := first.length_le
    omega

variable [DecidableEq α]

/-! ## One change -/

theorem substitution_le_one (x y : α) : substitution x y ≤ 1 := by
  unfold substitution
  split <;> omega

/-- What one change can do to the distance is not more behind a further item. -/
theorem backDistance_cons_le_of_le {xs ys : List α}
    (h : ∀ zs, backDistance xs zs ≤ backDistance ys zs + 1) (c : α) (zs : List α) :
    backDistance (c :: xs) zs ≤ backDistance (c :: ys) zs + 1 := by
  induction zs with
  | nil =>
    have hnil := h []
    rw [backDistance_nil_right, backDistance_nil_right] at hnil ⊢
    simp only [List.length_cons]
    omega
  | cons z zs ih =>
    have habove := h (z :: zs)
    have hdiagonal := h zs
    rw [backDistance_cons_cons, backDistance_cons_cons]
    omega

theorem backDistance_append_le_of_le {xs ys : List α}
    (h : ∀ zs, backDistance xs zs ≤ backDistance ys zs + 1) (u zs : List α) :
    backDistance (u ++ xs) zs ≤ backDistance (u ++ ys) zs + 1 := by
  induction u generalizing zs with
  | nil => exact h zs
  | cons c u ih => exact backDistance_cons_le_of_le ih c zs

theorem backDistance_substitute_le (x y : α) (v zs : List α) :
    backDistance (x :: v) zs ≤ backDistance (y :: v) zs + 1 := by
  induction zs with
  | nil => simp
  | cons z zs ih =>
    have hx := substitution_le_one x z
    rw [backDistance_cons_cons, backDistance_cons_cons]
    omega

/-- A change moves the distance from any sequence by at most one. -/
theorem Change.backDistance_le {xs ys : List α} (h : Change xs ys) (zs : List α) :
    backDistance xs zs ≤ backDistance ys zs + 1 := by
  cases h with
  | insert u v y => exact backDistance_append_le_of_le (backDistance_le_left y v) u zs
  | delete u v x => exact backDistance_append_le_of_le (backDistance_cons_left_le x v) u zs
  | substitute u v x y => exact backDistance_append_le_of_le (backDistance_substitute_le x y v) u zs

/-! ## Sequences of changes -/

theorem backDistance_le_of_turns {n : Nat} {xs ys : List α} (h : Turns n xs ys) :
    backDistance xs ys ≤ n := by
  induction h with
  | refl xs => rw [backDistance_self]
  | @step n xs ys zs first _ ih =>
    have hfirst := first.backDistance_le zs
    omega

theorem turns_backDistance (xs ys : List α) : Turns (backDistance xs ys) xs ys := by
  induction xs generalizing ys with
  | nil =>
    induction ys with
    | nil => exact .refl []
    | cons y ys ih => exact .step (.insert [] [] y) (ih.cons y)
  | cons x xs ihx =>
    induction ys with
    | nil =>
      rw [backDistance_nil_right]
      have hrest := ihx []
      rw [backDistance_nil_right] at hrest
      exact .step (.delete [] xs x) hrest
    | cons y ys ihy =>
      have hmin : backDistance (x :: xs) (y :: ys) = backDistance xs (y :: ys) + 1 ∨
          backDistance (x :: xs) (y :: ys) = backDistance (x :: xs) ys + 1 ∨
          backDistance (x :: xs) (y :: ys) = backDistance xs ys + substitution x y := by
        rw [backDistance_cons_cons]
        omega
      rcases hmin with hdel | hins | hsub
      · rw [hdel]
        exact .step (.delete [] xs x) (ihx (y :: ys))
      · rw [hins]
        exact .step (.insert [] (x :: xs) y) (ihy.cons y)
      · rw [hsub]
        unfold substitution
        split
        · rename_i heq
          subst heq
          exact (ihx ys).cons x
        · exact .step (.substitute [] xs x y) ((ihx ys).cons y)

/-- The distance is the least number of changes. -/
theorem isLeast_backDistance (xs ys : List α) :
    IsLeast {n | Turns n xs ys} (backDistance xs ys) := by
  refine ⟨turns_backDistance xs ys, ?_⟩
  intro n h
  exact backDistance_le_of_turns h

/-! ## The table -/

theorem length_laterCells (xs seen ys : List α) : (laterCells xs seen ys).length = ys.length := by
  induction ys generalizing seen with
  | nil => rfl
  | cons y ys ih => rw [laterCells, List.length_cons, ih, List.length_cons]

theorem length_prefixRow (xs right : List α) : (prefixRow xs right).length = right.length + 1 := by
  rw [prefixRow, List.length_cons, length_laterCells]

theorem length_rowsFrom (right : List α) (row : List Nat) (left : List α) :
    (rowsFrom right row left).length = left.length + 1 := by
  induction left generalizing row with
  | nil => rfl
  | cons x left ih => rw [rowsFrom, List.length_cons, ih, List.length_cons]

theorem length_of_mem_rowsFrom (xs left right : List α) {row : List Nat}
    (h : row ∈ rowsFrom right (prefixRow xs right) left) : row.length = right.length + 1 := by
  induction left generalizing xs with
  | nil =>
    rw [rowsFrom, List.mem_singleton] at h
    rw [h, length_prefixRow]
  | cons x left ih =>
    rw [rowsFrom, List.mem_cons, nextRow_prefixRow] at h
    rcases h with rfl | h
    · exact length_prefixRow xs right
    · exact ih (x :: xs) h

/-- **Each cell of the table is the least number of changes** that turn its prefix on the left into
its prefix on the right. -/
theorem table_least_changes (left right : List α) :
    (table left right).length = left.length + 1 ∧
      (∀ row ∈ table left right, row.length = right.length + 1) ∧
      ∀ i j, i ≤ left.length → j ≤ right.length →
        ∃ row d, (table left right)[i]? = some row ∧ row[j]? = some d ∧
          IsLeast {n | Turns n (left.take i) (right.take j)} d := by
  rw [table, range_eq_prefixRow]
  refine ⟨length_rowsFrom right _ left, ?_, ?_⟩
  · intro row hrow
    exact length_of_mem_rowsFrom [] left right hrow
  · intro i j hi hj
    have hrow := getElem?_rowsFrom [] left right hi
    have hcell := getElem?_prefixRow ((left.take i).reverse ++ []) right hj
    refine ⟨_, _, hrow, hcell, ?_⟩
    rw [List.append_nil]
    have hleast := isLeast_backDistance (left.take i).reverse (right.take j).reverse
    simpa only [turns_reverse_iff] using hleast

/-- The cell of `A |` and `C`: one token is overwritten and one deleted. -/
theorem table_least_changes_union :
    let left := Token.scan ['A', '|', 'B', ' ', 'D']
    let right := Token.scan ['C', '|', 'B', ' ', 'D']
    (2 ≤ left.length ∧ 1 ≤ right.length) ∧
      (∃ row, (table left right)[2]? = some row ∧ row ∈ table left right ∧ row.length = 5) ∧
      IsLeast {n | Turns n (left.take 2) (right.take 1)} 2 := by
  intro left right
  obtain ⟨-, hrows, hcells⟩ := table_least_changes left right
  obtain ⟨row, d, hrow, hd, hleast⟩ := hcells 2 1 (by decide) (by decide)
  have hmem : row ∈ table left right := List.mem_of_getElem? hrow
  have hcell : (((table left right)[2]?.getD [])[1]?).getD 0 = 2 := by decide
  rw [hrow, Option.getD_some, hd, Option.getD_some] at hcell
  rw [hcell] at hleast
  exact ⟨by decide, ⟨row, hrow, hmem, (hrows row hmem).trans (by decide)⟩, hleast⟩

end TypeMismatch.Edit
