import TypeMismatch.Edit.Script
import TypeMismatch.Token.Lexer

/-!
# A script holds both of its sequences

The walk through the table makes its script from the back: each step takes the last item of one side
or of both sides and puts it in front of the script.  What is left of a side together with the items
of that side in the script is therefore the same at every step, whatever the table says
(`leftItems_walk`, `rightItems_walk`).  At the end nothing is left, so the script has all items of
each side in their order (`align_replays`).
-/

namespace TypeMismatch.Edit

variable {α : Type}

/-! ## Items of one side -/

@[simp] theorem leftItems_nil : leftItems ([] : List (Edit α)) = [] := rfl

@[simp] theorem rightItems_nil : rightItems ([] : List (Edit α)) = [] := rfl

@[simp] theorem leftItems_keep (x : α) (s : List (Edit α)) :
    leftItems (.keep x :: s) = x :: leftItems s := rfl

@[simp] theorem leftItems_delete (x : α) (s : List (Edit α)) :
    leftItems (.delete x :: s) = x :: leftItems s := rfl

@[simp] theorem leftItems_insert (x : α) (s : List (Edit α)) :
    leftItems (.insert x :: s) = leftItems s := rfl

@[simp] theorem rightItems_keep (x : α) (s : List (Edit α)) :
    rightItems (.keep x :: s) = x :: rightItems s := rfl

@[simp] theorem rightItems_delete (x : α) (s : List (Edit α)) :
    rightItems (.delete x :: s) = rightItems s := rfl

@[simp] theorem rightItems_insert (x : α) (s : List (Edit α)) :
    rightItems (.insert x :: s) = x :: rightItems s := rfl

/-- Each step belongs to one of the sides. -/
theorem item_mem_of_mem {e : Edit α} {s : List (Edit α)} (h : e ∈ s) :
    e.item ∈ leftItems s ∨ e.item ∈ rightItems s := by
  cases e with
  | keep x => exact .inl (List.mem_map.2 ⟨.keep x, List.mem_filter.2 ⟨h, rfl⟩, rfl⟩)
  | delete x => exact .inl (List.mem_map.2 ⟨.delete x, List.mem_filter.2 ⟨h, rfl⟩, rfl⟩)
  | insert x => exact .inr (List.mem_map.2 ⟨.insert x, List.mem_filter.2 ⟨h, rfl⟩, rfl⟩)

variable [DecidableEq α]

/-! ## The walk -/

theorem leftItems_walk (costs : Nat → Nat → Nat) (left right : List α) (done : List (Edit α)) :
    leftItems (walk costs left right done) = left.reverse ++ leftItems done := by
  fun_induction walk costs left right done with
  | case1 done => rfl
  | case2 done y ys ih => rw [ih, leftItems_insert]
  | case3 done x xs ih => rw [ih, leftItems_delete, List.reverse_cons, List.append_assoc]; rfl
  | case4 done x xs ys ih => rw [ih, leftItems_keep, List.reverse_cons, List.append_assoc]; rfl
  | case5 done x xs y ys hne hle ih => rw [ih, leftItems_insert]
  | case6 done x xs y ys hne hlt ih =>
    rw [ih, leftItems_delete, List.reverse_cons, List.append_assoc]
    rfl

theorem rightItems_walk (costs : Nat → Nat → Nat) (left right : List α) (done : List (Edit α)) :
    rightItems (walk costs left right done) = right.reverse ++ rightItems done := by
  fun_induction walk costs left right done with
  | case1 done => rfl
  | case2 done y ys ih => rw [ih, rightItems_insert, List.reverse_cons, List.append_assoc]; rfl
  | case3 done x xs ih => rw [ih, rightItems_delete]
  | case4 done x xs ys ih => rw [ih, rightItems_keep, List.reverse_cons, List.append_assoc]; rfl
  | case5 done x xs y ys hne hle ih =>
    rw [ih, rightItems_insert, List.reverse_cons, List.append_assoc]
    rfl
  | case6 done x xs y ys hne hlt ih => rw [ih, rightItems_delete]

theorem leftItems_script (left right : List α) : leftItems (script left right) = left := by
  rw [script, leftItems_walk, List.reverse_reverse, leftItems_nil, List.append_nil]

theorem rightItems_script (left right : List α) : rightItems (script left right) = right := by
  rw [script, rightItems_walk, List.reverse_reverse, rightItems_nil, List.append_nil]

/-! ## Alignment -/

theorem align_eq_none_iff {limit : Int} {left right : List α} :
    align limit left right = none ↔
      limit < (left.length : Int) ∨ limit < (right.length : Int) := by
  unfold align
  split
  · rename_i h
    simpa using h
  · rename_i h
    simpa using h

theorem align_eq_some_iff {limit : Int} {left right : List α} {s : List (Edit α)} :
    align limit left right = some s ↔
      (left.length : Int) ≤ limit ∧ (right.length : Int) ≤ limit ∧ script left right = s := by
  simp [align, and_assoc]

/-- **An alignment is missing exactly beyond the limit**, and one that is there replays both
sequences. -/
theorem align_replays (limit : Int) (left right : List α) :
    (align limit left right = none ↔
        limit < (left.length : Int) ∨ limit < (right.length : Int)) ∧
      ∀ s, align limit left right = some s → leftItems s = left ∧ rightItems s = right := by
  refine ⟨align_eq_none_iff, ?_⟩
  intro s h
  obtain ⟨-, -, rfl⟩ := align_eq_some_iff.1 h
  exact ⟨leftItems_script left right, rightItems_script left right⟩

/-- A script that keeps, deletes and inserts, at its limit and just beyond it. -/
theorem align_replays_at_limit :
    let left := Token.scan ['A', '|', 'B']
    let right := Token.scan ['B', '[', ']']
    align 2 left right = none ∧
      ∃ s, align 3 left right = some s ∧ cost s = 4 ∧
        leftItems s = left ∧ rightItems s = right := by
  intro left right
  refine ⟨(align_replays 2 left right).1.2 (by decide), ?_⟩
  have hscript : align 3 left right = some (script left right) :=
    align_eq_some_iff.2 ⟨by decide, by decide, rfl⟩
  obtain ⟨hleft, hright⟩ := (align_replays 3 left right).2 _ hscript
  exact ⟨script left right, hscript, by cbv, hleft, hright⟩

end TypeMismatch.Edit
