import TypeMismatch.Proofs.Edit.Replay
import TypeMismatch.Proofs.Edit.ScriptCost

/-!
# A common tail is kept

Two sequences that end alike are aligned as if the common tail were not there, and then the tail is
kept (`align_common_tail`).

The walk starts at the last items, so it keeps the tail before it reads any cost
(`walk_append_append`).  From there on it reads the table of the longer sequences, where the cells
of their prefixes hold the same distances as in the table of the prefixes alone, and two walks that
read the same distances make the same script (`walk_eq_of_measures`).
-/

namespace TypeMismatch.Edit

variable {α : Type} [DecidableEq α]

/-! ## The walk -/

/-- Costs that are right for a walk are right for a walk that starts nearer to the beginning. -/
theorem Measures.of_suffix {costs : Nat → Nat → Nat} {left right xs ys : List α}
    (h : Measures costs left right) (hx : xs <:+ left) (hy : ys <:+ right) :
    Measures costs xs ys :=
  fun us vs hu hv => h us vs (hu.trans hx) (hv.trans hy)

theorem walk_eq_of_measures {costs costs' : Nat → Nat → Nat} (left right : List α)
    (done : List (Edit α)) (h : Measures costs left right) (h' : Measures costs' left right) :
    walk costs left right done = walk costs' left right done := by
  fun_induction walk costs left right done with
  | case1 done => simp only [walk]
  | case2 done y ys ih => rw [ih h.tail_right h'.tail_right, walk]
  | case3 done x xs ih => rw [ih h.tail_left h'.tail_left, walk]
  | case4 done x xs ys ih =>
    rw [ih h.tail_left.tail_right h'.tail_left.tail_right]
    simp only [walk, if_true]
  | case5 done x xs y ys hne hle ih =>
    obtain ⟨hl, ha⟩ := h.choices
    obtain ⟨hl', ha'⟩ := h'.choices
    rw [ih h.tail_right h'.tail_right]
    rw [hl, ha, ← hl', ← ha'] at hle
    simp only [walk, if_neg hne, if_pos hle]
  | case6 done x xs y ys hne hlt ih =>
    obtain ⟨hl, ha⟩ := h.choices
    obtain ⟨hl', ha'⟩ := h'.choices
    rw [ih h.tail_left h'.tail_left]
    rw [hl, ha, ← hl', ← ha'] at hlt
    simp only [walk, if_neg hne, if_neg hlt]

/-- What is done already stays at the end of the script. -/
theorem walk_append_done (costs : Nat → Nat → Nat) (left right : List α)
    (done more : List (Edit α)) :
    walk costs left right (done ++ more) = walk costs left right done ++ more := by
  fun_induction walk costs left right done with
  | case1 done => simp only [walk]
  | case2 done y ys ih => rw [walk, ← List.cons_append, ih]
  | case3 done x xs ih => rw [walk, ← List.cons_append, ih]
  | case4 done x xs ys ih => simp only [walk, if_true, ← List.cons_append, ih]
  | case5 done x xs y ys hne hle ih =>
    simp only [walk, if_neg hne, if_pos hle, ← List.cons_append, ih]
  | case6 done x xs y ys hne hlt ih =>
    simp only [walk, if_neg hne, if_neg hlt, ← List.cons_append, ih]

/-- The walk keeps what both sides end with, whatever the costs. -/
theorem walk_append_append (costs : Nat → Nat → Nat) (tail left right : List α)
    (done : List (Edit α)) :
    walk costs (tail ++ left) (tail ++ right) done =
      walk costs left right (tail.reverse.map .keep ++ done) := by
  induction tail generalizing done with
  | nil => rfl
  | cons x tail ih =>
    rw [List.cons_append, List.cons_append, walk, if_pos rfl, ih]
    simp

/-! ## Scripts -/

theorem script_append_append (p q s : List α) :
    script (p ++ s) (q ++ s) = script p q ++ s.map .keep := by
  have hwhole : Measures (cell (table (p ++ s) (q ++ s))) p.reverse q.reverse := by
    apply (measures_table (p ++ s) (q ++ s)).of_suffix
    · rw [List.reverse_append]
      exact List.suffix_append _ _
    · rw [List.reverse_append]
      exact List.suffix_append _ _
  unfold script
  rw [List.reverse_append, List.reverse_append, walk_append_append, List.reverse_reverse,
    List.append_nil, walk_eq_of_measures _ _ _ hwhole (measures_table p q)]
  exact walk_append_done _ _ _ [] _

theorem leftPiece_keep (m : Markers) (t : Token) : leftPiece m (.keep t) = some t.text := rfl

theorem rightPiece_keep (m : Markers) (t : Token) : rightPiece m (.keep t) = some t.text := rfl

theorem render_append_keep (m : Markers) (script : List (Edit Token)) (s : List Token) :
    render m (script ++ s.map .keep) =
      (spaced (script.filterMap (leftPiece m) ++ s.map Token.text),
        spaced (script.filterMap (rightPiece m) ++ s.map Token.text)) := by
  simp [render, List.filterMap_append, List.filterMap_map, Function.comp_def, leftPiece_keep,
    rightPiece_keep]

/-- **A common tail is kept and does not touch the rest.**  The alignment is that of the sequences
without their common tail, followed by one kept token for each token of the tail, and both lines of
a diff end with the tokens of the tail as they are. -/
theorem align_common_tail {limit : Int} {p q s : List Token}
    (hp : ((p ++ s).length : Int) ≤ limit) (hq : ((q ++ s).length : Int) ≤ limit) :
    ∃ script, align limit p q = some script ∧
      align limit (p ++ s) (q ++ s) = some (script ++ s.map .keep) ∧
      ∀ m : Markers,
        render m (script ++ s.map .keep) =
            (spaced (script.filterMap (leftPiece m) ++ s.map Token.text),
              spaced (script.filterMap (rightPiece m) ++ s.map Token.text)) ∧
          ∀ a b : String, Token.tokenize a = p ++ s → Token.tokenize b = q ++ s →
            diffWithin m limit a b = render m (script ++ s.map .keep) := by
  have hlong : align limit (p ++ s) (q ++ s) = some (script p q ++ s.map .keep) :=
    align_eq_some_iff.2 ⟨hp, hq, script_append_append p q s⟩
  have hshort : align limit p q = some (script p q) := by
    rw [List.length_append] at hp hq
    exact align_eq_some_iff.2 ⟨by omega, by omega, rfl⟩
  refine ⟨script p q, hshort, hlong, ?_⟩
  intro m
  refine ⟨render_append_keep m (script p q) s, ?_⟩
  intro a b ha hb
  simp only [diffWithin, ha, hb, hlong]

/-- The tail `A | B` at the limit: its tokens stand in front of it, too. -/
theorem align_common_tail_repeated :
    let p := Token.scan ['A', '|', 'B', '[', ']']
    let q := Token.scan ['B', '|', 'A', '|', 'B']
    let s := Token.scan ['A', '|', 'B']
    (((p ++ s).length : Int) ≤ 8 ∧ ((q ++ s).length : Int) ≤ 8) ∧
      ∃ script, align 8 p q = some script ∧ cost script = 4 ∧
        align 8 (p ++ s) (q ++ s) = some (script ++ s.map .keep) ∧
        diffWithin Markers.standard 8 "A | B[] A | B" "B | A | B A | B" =
          render Markers.standard (script ++ s.map .keep) := by
  intro p q s
  have hp : ((p ++ s).length : Int) ≤ 8 := by decide
  have hq : ((q ++ s).length : Int) ≤ 8 := by decide
  obtain ⟨script, hshort, hlong, hsides⟩ := align_common_tail hp hq
  obtain ⟨-, -, rfl⟩ := align_eq_some_iff.1 hshort
  refine ⟨⟨hp, hq⟩, Edit.script p q, hshort, by cbv, hlong, ?_⟩
  exact (hsides Markers.standard).2 _ _ (by decide) (by decide)

end TypeMismatch.Edit
