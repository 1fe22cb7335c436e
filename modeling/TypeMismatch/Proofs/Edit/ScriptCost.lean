import TypeMismatch.Edit.Markup
import TypeMismatch.Proofs.Edit.PrefixDistance

/-!
# The cost of a script

A script has no substitutions, and the walk that reads it from the table may leave the cheapest
path.  Its cost is therefore not the distance `d`, but it lies between `d` and `2 * d`
(`align_cost_bounds`), and it has the parity of the two lengths together.

For the upper bound, a plain induction on the table fails at a substitution: the walk moves to a
neighbour whose distance is not smaller.  What saves it is that such a neighbour is `Relieved`: a
cell beside it is cheaper, and then the rest of the walk costs less than twice its distance.
-/

namespace TypeMismatch.Edit

variable {α : Type}

/-! ## What a step adds -/

@[simp] theorem cost_keep (x : α) (s : List (Edit α)) : cost (.keep x :: s) = cost s := rfl

@[simp] theorem cost_insert (x : α) (s : List (Edit α)) : cost (.insert x :: s) = cost s + 1 := rfl

@[simp] theorem cost_delete (x : α) (s : List (Edit α)) : cost (.delete x :: s) = cost s + 1 := rfl

theorem cost_eq_zero_iff (s : List (Edit α)) : cost s = 0 ↔ ∀ e ∈ s, e.isKeep = true := by
  simp [cost, List.filter_eq_nil_iff]

variable [DecidableEq α]

/-! ## The costs that a walk reads -/

/-- The costs that a walk reads are the distances of the prefixes that it comes through. -/
def Measures (costs : Nat → Nat → Nat) (left right : List α) : Prop :=
  ∀ xs ys, xs <:+ left → ys <:+ right → costs xs.length ys.length = backDistance xs ys

namespace Measures

variable {costs : Nat → Nat → Nat} {x y : α} {xs ys : List α}

theorem tail_left (h : Measures costs (x :: xs) ys) : Measures costs xs ys :=
  fun us vs hu hv => h us vs (hu.trans (List.suffix_cons x xs)) hv

theorem tail_right (h : Measures costs xs (y :: ys)) : Measures costs xs ys :=
  fun us vs hu hv => h us vs hu (hv.trans (List.suffix_cons y ys))

/-- What the walk reads where it has to choose: the distances of the cells to the left and above. -/
theorem choices (h : Measures costs (x :: xs) (y :: ys)) :
    costs (xs.length + 1) ys.length = backDistance (x :: xs) ys ∧
      costs xs.length (ys.length + 1) = backDistance xs (y :: ys) :=
  ⟨h (x :: xs) ys (List.suffix_refl _) (List.suffix_cons y ys),
    h xs (y :: ys) (List.suffix_cons x xs) (List.suffix_refl _)⟩

end Measures

omit [DecidableEq α] in
/-- The prefix of a reversed sequence that a suffix stands for. -/
theorem eq_reverse_take_of_suffix {xs left : List α} (h : xs <:+ left.reverse) :
    xs = (left.take xs.length).reverse := by
  obtain ⟨front, hf⟩ := h
  have hl : left = xs.reverse ++ front.reverse := by
    rw [← List.reverse_append, hf, List.reverse_reverse]
  rw [hl, List.take_left' (by simp), List.reverse_reverse]

theorem measures_table (left right : List α) :
    Measures (cell (table left right)) left.reverse right.reverse := by
  intro xs ys hx hy
  have hxl : xs.length ≤ left.length := by simpa using hx.length_le
  have hyl : ys.length ≤ right.length := by simpa using hy.length_le
  rw [cell_table left right hxl hyl, ← eq_reverse_take_of_suffix hx,
    ← eq_reverse_take_of_suffix hy]

/-! ## Cells beside a cheaper one -/

/-- The cell above or the cell to the left is cheaper. -/
def Relieved (xs ys : List α) : Prop :=
  backDistance xs.tail ys < backDistance xs ys ∨ backDistance xs ys.tail < backDistance xs ys

/-- A cell whose right neighbour is cheaper is cheaper above, too: the right neighbour owes its
distance to the cells above. -/
theorem backDistance_tail_lt_of_right {y : α} {xs ys : List α}
    (h : backDistance xs (y :: ys) < backDistance xs ys) :
    backDistance xs.tail ys < backDistance xs ys := by
  cases xs with
  | nil =>
    rw [backDistance_nil_left, backDistance_nil_left, List.length_cons] at h
    omega
  | cons x xs =>
    rw [backDistance_cons_cons] at h
    have habove := backDistance_le_right y xs ys
    rw [List.tail_cons]
    omega

/-- A cell whose lower neighbour is cheaper is cheaper to the left, too. -/
theorem backDistance_tail_lt_of_below {x : α} {xs ys : List α}
    (h : backDistance (x :: xs) ys < backDistance xs ys) :
    backDistance xs ys.tail < backDistance xs ys := by
  cases ys with
  | nil =>
    rw [backDistance_nil_right, backDistance_nil_right, List.length_cons] at h
    omega
  | cons y ys =>
    rw [backDistance_cons_cons] at h
    have hbefore := backDistance_le_left x xs ys
    rw [List.tail_cons]
    omega

/-- Keeping an item goes from a relieved cell to a relieved cell. -/
theorem Relieved.of_cons_self {x : α} {xs ys : List α} (h : Relieved (x :: xs) (x :: ys)) :
    Relieved xs ys := by
  rw [Relieved, backDistance_cons_self] at h
  rcases h with h | h
  · exact .inl (backDistance_tail_lt_of_right h)
  · exact .inr (backDistance_tail_lt_of_below h)

/-! ## The walk -/

theorem backDistance_le_cost_walk (costs : Nat → Nat → Nat) (left right : List α)
    (done : List (Edit α)) :
    cost done + backDistance left right ≤ cost (walk costs left right done) := by
  fun_induction walk costs left right done with
  | case1 done => simp
  | case2 done y ys ih =>
    simp only [backDistance_nil_left, cost_insert, List.length_cons] at ih ⊢
    omega
  | case3 done x xs ih =>
    simp only [backDistance_nil_right, cost_delete, List.length_cons] at ih ⊢
    omega
  | case4 done x xs ys ih => rw [backDistance_cons_self]; exact ih
  | case5 done x xs y ys hne hle ih =>
    have := backDistance_cons_right_le y (x :: xs) ys
    rw [cost_insert] at ih
    omega
  | case6 done x xs y ys hne hlt ih =>
    have := backDistance_cons_left_le x xs (y :: ys)
    rw [cost_delete] at ih
    omega

theorem cost_walk_mod_two (costs : Nat → Nat → Nat) (left right : List α)
    (done : List (Edit α)) :
    cost (walk costs left right done) % 2 = (cost done + left.length + right.length) % 2 := by
  fun_induction walk costs left right done with
  | case1 done => simp
  | case2 done y ys ih => rw [ih, cost_insert, List.length_cons]; omega
  | case3 done x xs ih => rw [ih, cost_delete, List.length_cons]; omega
  | case4 done x xs ys ih => rw [ih, cost_keep]; simp only [List.length_cons]; omega
  | case5 done x xs y ys hne hle ih => rw [ih, cost_insert]; simp only [List.length_cons]; omega
  | case6 done x xs y ys hne hlt ih => rw [ih, cost_delete]; simp only [List.length_cons]; omega

/-- **The walk costs at most twice the distance, and less than that from a relieved cell.** -/
theorem cost_walk_le {costs : Nat → Nat → Nat} (left right : List α) (done : List (Edit α))
    (hm : Measures costs left right) :
    cost (walk costs left right done) ≤ cost done + 2 * backDistance left right ∧
      (Relieved left right →
        cost (walk costs left right done) < cost done + 2 * backDistance left right) := by
  fun_induction walk costs left right done with
  | case1 done => simp [Relieved]
  | case2 done y ys ih =>
    have hrest := (ih hm.tail_right).1
    simp only [backDistance_nil_left, cost_insert, List.length_cons] at hrest ⊢
    omega
  | case3 done x xs ih =>
    have hrest := (ih hm.tail_left).1
    simp only [backDistance_nil_right, cost_delete, List.length_cons] at hrest ⊢
    omega
  | case4 done x xs ys ih =>
    have hrest := ih hm.tail_left.tail_right
    rw [backDistance_cons_self]
    exact ⟨hrest.1, fun h => hrest.2 h.of_cons_self⟩
  | case5 done x xs y ys hne hle ih =>
    obtain ⟨hleft, habove⟩ := hm.choices
    rw [hleft, habove] at hle
    obtain ⟨hrest, hrelieved⟩ := ih hm.tail_right
    rw [cost_insert] at hrest hrelieved
    have hd := backDistance_cons_ne hne xs ys
    by_cases hcheap : backDistance (x :: xs) ys < backDistance (x :: xs) (y :: ys)
    · omega
    · -- a substitution: the cell to the left is as far, and the one above it is cheaper
      have hstep := backDistance_cons_left_le x xs ys
      have hslack := hrelieved (.inl (by rw [List.tail_cons]; omega))
      refine ⟨by omega, fun h => ?_⟩
      rw [Relieved, List.tail_cons, List.tail_cons] at h
      omega
  | case6 done x xs y ys hne hlt ih =>
    obtain ⟨hleft, habove⟩ := hm.choices
    rw [hleft, habove] at hlt
    obtain ⟨hrest, hrelieved⟩ := ih hm.tail_left
    rw [cost_delete] at hrest hrelieved
    have hd := backDistance_cons_ne hne xs ys
    have hstep := backDistance_cons_right_le y xs ys
    have hnear := backDistance_cons_left_le x xs ys
    by_cases hcheap : backDistance xs (y :: ys) < backDistance (x :: xs) (y :: ys)
    · omega
    · have hslack := hrelieved (.inr (by rw [List.tail_cons]; omega))
      refine ⟨by omega, fun h => ?_⟩
      rw [Relieved, List.tail_cons, List.tail_cons] at h
      omega

/-! ## Alignment -/

/-- The distance of two sequences as the table holds it. -/
theorem cell_table_last (left right : List α) :
    cell (table left right) left.length right.length =
      backDistance left.reverse right.reverse := by
  rw [cell_table left right (Nat.le_refl _) (Nat.le_refl _), List.take_length, List.take_length]

/-- **The cost of an alignment** lies between the distance and twice the distance, has the parity of
the two lengths together, and is nothing exactly for equal sequences. -/
theorem align_cost_bounds {limit : Int} {left right : List α} (hl : (left.length : Int) ≤ limit)
    (hr : (right.length : Int) ≤ limit) :
    ∃ script, align limit left right = some script ∧
      cell (table left right) left.length right.length ≤ cost script ∧
      cost script ≤ 2 * cell (table left right) left.length right.length ∧
      cost script % 2 = (left.length + right.length) % 2 ∧
      ((∀ e ∈ script, e.isKeep = true) ↔ left = right) := by
  have hlow : backDistance left.reverse right.reverse ≤ cost (script left right) := by
    simpa [cost, script] using
      backDistance_le_cost_walk (cell (table left right)) left.reverse right.reverse []
  have hhigh : cost (script left right) ≤ 2 * backDistance left.reverse right.reverse := by
    simpa [cost, script] using
      (cost_walk_le left.reverse right.reverse [] (measures_table left right)).1
  have hparity : cost (script left right) % 2 = (left.length + right.length) % 2 := by
    simpa [cost, script] using
      cost_walk_mod_two (cell (table left right)) left.reverse right.reverse []
  refine ⟨script left right, ?_, ?_, ?_, hparity, ?_⟩
  · have : ¬ (limit < left.length ∨ limit < right.length) := by omega
    simpa [align] using this
  · rw [cell_table_last]; exact hlow
  · rw [cell_table_last]; exact hhigh
  · rw [← cost_eq_zero_iff]
    constructor
    · intro h
      have hzero : backDistance left.reverse right.reverse = 0 := by omega
      exact List.reverse_inj.1 (eq_of_backDistance_eq_zero hzero)
    · rintro rfl
      rw [backDistance_self] at hhigh
      omega

/-- A word that has moved to the other end, with other words in its place: the distance is 4, so
the script costs 4, 6 or 8. -/
theorem align_cost_bounds_moved_word :
    let left := Token.scan ['A', ' ', 'Z']
    let right := Token.scan ['Q', ' ', 'Q', ' ', 'Q', ' ', 'A']
    ((left.length : Int) ≤ 500 ∧ (right.length : Int) ≤ 500) ∧
      cell (table left right) left.length right.length = 4 ∧
      ∃ script, align 500 left right = some script ∧ 4 ≤ cost script ∧ cost script ≤ 8 ∧
        cost script % 2 = 0 := by
  intro left right
  have hcell : cell (table left right) left.length right.length = 4 := by decide
  refine ⟨by decide, hcell, ?_⟩
  obtain ⟨script, hs, hlow, hhigh, hparity, -⟩ :=
    @align_cost_bounds _ _ 500 left right (by decide) (by decide)
  rw [hcell] at hlow hhigh
  have hlengths : (left.length + right.length) % 2 = 0 := by decide
  exact ⟨script, hs, hlow, hhigh, hparity.trans hlengths⟩

end TypeMismatch.Edit
