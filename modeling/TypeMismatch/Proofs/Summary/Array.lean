import Mathlib.Logic.Function.Iterate
import TypeMismatch.Proofs.Text.Blank
import TypeMismatch.Summary.Array

/-!
# Rounds of shortening arrays

A round goes over the text once, from left to right, and rewrites the innermost arrays that it
meets.  The parentheses that an array may get cost less than its name and its angle brackets
(`length_shortArray_le`), so a round that finds an array shortens the text, and one that finds none
leaves it alone (`collapseOnce_eq_self_iff`).  Hence the rounds end within the length of the text,
and with a text in which no array is left (`exists_rounds`).

The fuel of the two loops is gone after the first section and the last: `collapsed` is a round from
any place on, and `collapseArrays` has the two equations of the loop (`collapseArrays_of_fixed`,
`collapseArrays_of_changed`).
-/

namespace TypeMismatch.Summary

/-! ## An innermost array -/

/-- What an array begins with, up to its angle bracket. -/
def arrayName : List Char := ['A', 'r', 'r', 'a', 'y']

/-- No angle bracket is in the text. -/
def Plain (cs : List Char) : Prop := ∀ c ∈ cs, isAngle c = false

instance (cs : List Char) : Decidable (Plain cs) :=
  decidable_of_iff (cs.any isAngle = false) (by simp [Plain])

theorem plain_cons {c : Char} {u : List Char} :
    Plain (c :: u) ↔ isAngle c = false ∧ Plain u :=
  List.forall_mem_cons

theorem plain_append {u v : List Char} : Plain (u ++ v) ↔ Plain u ∧ Plain v := by
  simp only [Plain, List.forall_mem_append]

/-- What is up to the first angle bracket of a text is determined by the text. -/
theorem eq_of_plain_append {u u' v v' : List Char} {c c' : Char} (hu : Plain u) (hu' : Plain u')
    (hc : isAngle c = true) (hc' : isAngle c' = true) (h : u ++ c :: v = u' ++ c' :: v') :
    u = u' ∧ c = c' ∧ v = v' := by
  induction u generalizing u' with
  | nil =>
    cases u' with
    | nil => simpa using h
    | cons d u' =>
      obtain ⟨rfl, -⟩ := List.cons.inj h
      rw [(plain_cons.1 hu').1] at hc
      cases hc
  | cons d u ih =>
    cases u' with
    | nil =>
      obtain ⟨rfl, -⟩ := List.cons.inj h
      rw [(plain_cons.1 hu).1] at hc'
      cases hc'
    | cons d' u' =>
      obtain ⟨rfl, hrest⟩ := List.cons.inj h
      obtain ⟨rfl, hends⟩ := ih (plain_cons.1 hu).2 (plain_cons.1 hu').2 hrest
      exact ⟨rfl, hends⟩

theorem takeWhile_plain_append {u v : List Char} {c : Char} (hu : Plain u) (hc : isAngle c = true) :
    ((u ++ c :: v).takeWhile fun d => !isAngle d) = u := by
  have hrun : ∀ d ∈ u, (!isAngle d) = true := fun d hd => by rw [hu d hd]; rfl
  rw [List.takeWhile_append_of_pos hrun]
  simp [hc]

theorem dropWhile_plain_append {u v : List Char} {c : Char} (hu : Plain u) (hc : isAngle c = true) :
    ((u ++ c :: v).dropWhile fun d => !isAngle d) = c :: v := by
  have hrun : ∀ d ∈ u, (!isAngle d) = true := fun d hd => by rw [hu d hd]; rfl
  rw [List.dropWhile_append_of_pos hrun]
  simp [hc]

theorem innermostArray?_eq_some_iff {cs items after : List Char} :
    innermostArray? cs = some (items, after) ↔
      cs = arrayName ++ '<' :: (items ++ '>' :: after) ∧ items ≠ [] ∧ Plain items := by
  constructor
  · intro h
    unfold innermostArray? at h
    split at h
    · next rest =>
      dsimp only at h
      split at h
      · next after' hafter =>
        have hrest := List.takeWhile_append_dropWhile (p := fun c => !isAngle c) (l := rest)
        have hplain := List.all_takeWhile (p := fun c => !isAngle c) (l := rest)
        rw [hafter] at hrest
        rw [List.all_eq_true] at hplain
        split at h
        · cases h
        · next hne =>
          simp only [Option.some.injEq, Prod.mk.injEq] at h
          obtain ⟨rfl, rfl⟩ := h
          refine ⟨?_, by simpa using hne, fun c hc => by simpa using hplain c hc⟩
          rw [hrest]
          rfl
      · cases h
    · cases h
  · rintro ⟨rfl, hne, hplain⟩
    have htake := takeWhile_plain_append (v := after) hplain (c := '>') rfl
    have hdrop := dropWhile_plain_append (v := after) hplain (c := '>') rfl
    simp [arrayName, innermostArray?, htake, hdrop, hne]

theorem innermostArray?_of_ne {c : Char} (hc : c ≠ 'A') (rest : List Char) :
    innermostArray? (c :: rest) = none := by
  rw [Option.eq_none_iff_forall_not_mem]
  rintro ⟨items, after⟩ h
  obtain ⟨htext, -⟩ := innermostArray?_eq_some_iff.1 h
  exact hc (List.cons.inj htext).1

/-! ## A round from any place on -/

/-- An array of `items` takes at least three characters more when it is written out. -/
theorem length_shortArray_le (items : List Char) :
    (shortArray items).length ≤ items.length + 4 := by
  have htrim := Text.length_trim_le items
  unfold shortArray
  dsimp only
  split
  · simp
    omega
  · simp
    omega

/-- Once the fuel is enough for all characters, it does not matter how much it is. -/
theorem collapseFrom_eq_of_length_le {m n : Nat} {inWord : Bool} {cs : List Char}
    (hm : cs.length ≤ m) (hn : cs.length ≤ n) :
    collapseFrom m inWord cs = collapseFrom n inWord cs := by
  induction m generalizing n inWord cs with
  | zero =>
    rw [List.eq_nil_of_length_eq_zero (Nat.le_zero.1 hm)]
    cases n <;> rfl
  | succ m ih =>
    cases cs with
    | nil => cases n <;> rfl
    | cons c cs =>
      obtain ⟨n, rfl⟩ : ∃ k, n = k + 1 := Nat.exists_eq_succ_of_ne_zero (by simp at hn; omega)
      have hm : cs.length ≤ m := Nat.le_of_succ_le_succ hm
      have hn : cs.length ≤ n := Nat.le_of_succ_le_succ hn
      rw [collapseFrom, collapseFrom]
      split
      · next items after harray =>
        have hafter : after.length ≤ cs.length := by
          split at harray
          · cases harray
          · obtain ⟨htext, -⟩ := innermostArray?_eq_some_iff.1 harray
            have hlength := congrArg List.length htext
            simp at hlength
            omega
        rw [ih (n := n) (by omega) (by omega)]
      · rw [ih hm hn]

/-- A round over the rest of a text; `inWord` says that a word goes on there. -/
def collapsed (inWord : Bool) (cs : List Char) : List Char := collapseFrom cs.length inWord cs

@[simp] theorem collapsed_nil (inWord : Bool) : collapsed inWord [] = [] := rfl

theorem collapsed_array {items : List Char} (hne : items ≠ []) (hplain : Plain items)
    (after : List Char) :
    collapsed false (arrayName ++ '<' :: (items ++ '>' :: after)) =
      shortArray items ++ collapsed false after := by
  have harray : innermostArray? (arrayName ++ '<' :: (items ++ '>' :: after)) =
      some (items, after) := innermostArray?_eq_some_iff.2 ⟨rfl, hne, hplain⟩
  simp only [arrayName, List.cons_append, List.nil_append] at harray
  simp only [collapsed, arrayName, List.cons_append, List.nil_append, List.length_cons,
    collapseFrom, harray, Bool.false_eq_true, ite_false, List.append_cancel_left_eq]
  exact collapseFrom_eq_of_length_le (by simp; omega) (Nat.le_refl _)

theorem collapsed_cons {inWord : Bool} {c : Char} {rest : List Char}
    (h : inWord = false → innermostArray? (c :: rest) = none) :
    collapsed inWord (c :: rest) = c :: collapsed (Text.isWordChar c) rest := by
  have hnone : (if inWord then none else innermostArray? (c :: rest)) = none := by
    cases inWord with
    | true => rfl
    | false => exact h rfl
  rw [collapsed, List.length_cons, collapseFrom, hnone]
  rfl

theorem collapsed_cons_of_ne (inWord : Bool) {c : Char} (hc : c ≠ 'A') (rest : List Char) :
    collapsed inWord (c :: rest) = c :: collapsed (Text.isWordChar c) rest :=
  collapsed_cons fun _ => innermostArray?_of_ne hc rest

/-- Does a word go on behind the text, if `inWord` says so in front of it? -/
def inWordAfter (inWord : Bool) : List Char → Bool
  | [] => inWord
  | c :: rest => inWordAfter (Text.isWordChar c) rest

theorem inWordAfter_eq_false_iff (cs : List Char) :
    inWordAfter false cs = false ↔ ∀ c ∈ cs.getLast?, Text.isWordChar c = false := by
  have hlast : ∀ inWord, inWordAfter inWord cs = (cs.getLast?.map Text.isWordChar).getD inWord := by
    induction cs with
    | nil => exact fun _ => rfl
    | cons c cs ih =>
      intro inWord
      rw [inWordAfter, ih, List.getLast?_cons]
      cases cs.getLast? <;> rfl
  rw [hlast]
  cases cs.getLast? <;> simp

/-- Where no array begins, a round leaves the text as it is. -/
theorem collapsed_append {inWord : Bool} {u rest : List Char}
    (h : ∀ a b, u = a ++ b → b ≠ [] → inWordAfter inWord a = false →
      innermostArray? (b ++ rest) = none) :
    collapsed inWord (u ++ rest) = u ++ collapsed (inWordAfter inWord u) rest := by
  induction u generalizing inWord with
  | nil => rfl
  | cons c u ih =>
    have hfirst : inWord = false → innermostArray? (c :: (u ++ rest)) = none :=
      h [] (c :: u) rfl (List.cons_ne_nil c u)
    have hrest := @ih (Text.isWordChar c) fun a b hu => h (c :: a) b (congrArg (c :: ·) hu)
    rw [List.cons_append, collapsed_cons hfirst, hrest]
    rfl

theorem length_collapsed_le (inWord : Bool) (cs : List Char) :
    (collapsed inWord cs).length ≤ cs.length := by
  suffices ∀ fuel, (collapseFrom fuel inWord cs).length ≤ cs.length from this cs.length
  intro fuel
  induction fuel generalizing inWord cs with
  | zero => exact Nat.le_refl _
  | succ fuel ih =>
    cases cs with
    | nil => exact Nat.le_refl _
    | cons c cs =>
      rw [collapseFrom]
      split
      · next items after harray =>
        split at harray
        · cases harray
        · obtain ⟨htext, -⟩ := innermostArray?_eq_some_iff.1 harray
          have hshort := length_shortArray_le items
          have hafter := ih false after
          rw [htext]
          simp [arrayName]
          omega
      · exact Nat.succ_le_succ (ih _ cs)

/-- An array that a round comes to is shortened, or else another in front of it is. -/
theorem length_collapsed_lt {inWord : Bool} {u items : List Char}
    (hu : inWordAfter inWord u = false) (hne : items ≠ []) (hplain : Plain items)
    (after : List Char) :
    (collapsed inWord (u ++ (arrayName ++ '<' :: (items ++ '>' :: after)))).length <
      (u ++ (arrayName ++ '<' :: (items ++ '>' :: after))).length := by
  induction u generalizing inWord with
  | nil =>
    obtain rfl : inWord = false := hu
    have hshort := length_shortArray_le items
    have hafter := length_collapsed_le false after
    rw [List.nil_append, collapsed_array hne hplain]
    simp [arrayName]
    omega
  | cons c u ih =>
    generalize hrest : u ++ (arrayName ++ '<' :: (items ++ '>' :: after)) = rest at ih
    rw [List.cons_append, hrest]
    by_cases hfirst : inWord = false → innermostArray? (c :: rest) = none
    · have hlength := @ih (Text.isWordChar c) hu
      rw [collapsed_cons hfirst]
      simpa using hlength
    · obtain ⟨rfl, hsome⟩ := Classical.not_imp.1 hfirst
      obtain ⟨⟨items', after'⟩, harray⟩ := Option.ne_none_iff_exists'.1 hsome
      obtain ⟨htext, hne', hplain'⟩ := innermostArray?_eq_some_iff.1 harray
      have hshort := length_shortArray_le items'
      have hafter := length_collapsed_le false after'
      rw [htext, collapsed_array hne' hplain']
      simp [arrayName]
      omega

/-! ## A round over a text -/

/-- An innermost array is in the text, and its name does not begin inside of a word. -/
def HasArray (cs : List Char) : Prop :=
  ∃ u items v, cs = u ++ (arrayName ++ '<' :: (items ++ '>' :: v)) ∧ items ≠ [] ∧ Plain items ∧
    ∀ c ∈ u.getLast?, Text.isWordChar c = false

theorem length_collapseOnce_lt {cs : List Char} (h : HasArray cs) :
    (collapseOnce cs).length < cs.length := by
  obtain ⟨u, items, v, rfl, hne, hplain, hlast⟩ := h
  exact length_collapsed_lt ((inWordAfter_eq_false_iff u).2 hlast) hne hplain v

/-- A round changes nothing exactly when no array is left. -/
theorem collapseOnce_eq_self_iff (cs : List Char) : collapseOnce cs = cs ↔ ¬ HasArray cs := by
  constructor
  · intro h harray
    have hlength := length_collapseOnce_lt harray
    rw [h] at hlength
    exact Nat.lt_irrefl _ hlength
  · intro h
    have hnone : ∀ a b, cs = a ++ b → b ≠ [] → inWordAfter false a = false →
        innermostArray? (b ++ []) = none := by
      intro a b hcs hb ha
      rw [Option.eq_none_iff_forall_not_mem]
      rintro ⟨items, after⟩ hsome
      obtain ⟨htext, hne, hplain⟩ := innermostArray?_eq_some_iff.1 hsome
      rw [List.append_nil] at htext
      exact h ⟨a, items, after, by rw [hcs, htext], hne, hplain, (inWordAfter_eq_false_iff a).1 ha⟩
    have hround := collapsed_append hnone
    rwa [List.append_nil, collapsed_nil, List.append_nil] at hround

theorem length_collapseOnce_lt_of_ne {cs : List Char} (h : collapseOnce cs ≠ cs) :
    (collapseOnce cs).length < cs.length :=
  length_collapseOnce_lt (Classical.not_not.1 (mt (collapseOnce_eq_self_iff cs).2 h))

/-! ## All rounds -/

/-- The fuel is one more than the length, so it lasts until nothing changes. -/
theorem collapseRounds_eq_of_length_lt {m n : Nat} {cs : List Char} (hm : cs.length < m)
    (hn : cs.length < n) : collapseRounds m cs = collapseRounds n cs := by
  induction m generalizing n cs with
  | zero => omega
  | succ m ih =>
    obtain ⟨n, rfl⟩ : ∃ k, n = k + 1 := Nat.exists_eq_succ_of_ne_zero (by omega)
    rw [collapseRounds, collapseRounds]
    split
    · rfl
    · next hchanged =>
      have hlength := length_collapseOnce_lt_of_ne hchanged
      exact ih (by omega) (by omega)

theorem collapseArrays_of_fixed {cs : List Char} (h : collapseOnce cs = cs) :
    collapseArrays cs = cs := by
  rw [collapseArrays, collapseRounds]
  rw [if_pos h]

theorem collapseArrays_of_changed {cs : List Char} (h : collapseOnce cs ≠ cs) :
    collapseArrays cs = collapseArrays (collapseOnce cs) := by
  have hlength := length_collapseOnce_lt_of_ne h
  rw [collapseArrays, collapseRounds]
  rw [if_neg h]
  exact collapseRounds_eq_of_length_lt hlength (Nat.lt_succ_self _)

/-- The result is reached by rounds of which each shortens the text, and it has no array left. -/
theorem exists_rounds (cs : List Char) : ∃ n ≤ cs.length, collapseArrays cs = collapseOnce^[n] cs ∧
    (∀ i < n, (collapseOnce^[i + 1] cs).length < (collapseOnce^[i] cs).length) ∧
    ¬ HasArray (collapseArrays cs) := by
  induction hsize : cs.length using Nat.strongRecOn generalizing cs with
  | ind size ih =>
    by_cases hchanged : collapseOnce cs = cs
    · rw [collapseArrays_of_fixed hchanged]
      exact ⟨0, Nat.zero_le _, rfl, fun i hi => absurd hi (Nat.not_lt_zero i),
        (collapseOnce_eq_self_iff cs).1 hchanged⟩
    · have hfirst := length_collapseOnce_lt_of_ne hchanged
      obtain ⟨n, hn, hresult, hshorter, hdone⟩ := ih _ (hsize ▸ hfirst) (collapseOnce cs) rfl
      rw [← collapseArrays_of_changed hchanged] at hresult hdone
      refine ⟨n + 1, by omega, hresult, ?_, hdone⟩
      intro i hi
      cases i with
      | zero => exact hfirst
      | succ i => exact hshorter i (Nat.lt_of_succ_lt_succ hi)

end TypeMismatch.Summary
