import TypeMismatch.Proofs.Edit.OneRow
import TypeMismatch.Suggestion

/-!
# What is suggested for a name that is not known

The candidates within a distance have one ranking, by distance and then by the alphabet.  Before
candidates are ranked, those are dropped whose length differs too much from that of the name, and
what is suggested comes from the ranking without these (`similar_eq_take_filter`).

Dropping is meant to be free, since sequences whose lengths differ by more than a number are more
changes than that apart (`length_lowered_le`).  But the lengths are those of the names as
they are written and the distance is that of their lower-case forms.  One letter, `İ`, has a
lower-case form of two characters (`length_lower`), so a candidate may be dropped that is near.  The
suggestions are the first ones of the whole ranking exactly when none of these is dropped
(`similar_eq_take_ranking_iff`), and always when the candidates have this letter as often as the
name.
-/

namespace TypeMismatch

namespace Text

/-- One letter has a lower-case form of two characters. -/
theorem length_lowerChar (before : List Char) (c : Char) (after : List Char) :
    (lowerChar before c after).length = if c = 'İ' then 2 else 1 := by
  unfold lowerChar
  by_cases hdot : c = 'İ'
  · subst hdot
    rfl
  · by_cases hsigma : c = 'Σ'
    · subst hsigma
      simp only [beq_self_eq_true, if_true]
      split <;> rfl
    · simp [hdot, hsigma]

theorem length_lowerFrom (before cs : List Char) :
    (lowerFrom before cs).length = cs.length + cs.count 'İ' := by
  induction cs generalizing before with
  | nil => rfl
  | cons c cs ih =>
    have hrest := ih (c :: before)
    rw [lowerFrom, List.length_append, length_lowerChar, hrest, List.length_cons, List.count_cons]
    simp only [beq_iff_eq]
    split <;> omega

theorem length_lower (cs : List Char) : (lower cs).length = cs.length + cs.count 'İ' :=
  length_lowerFrom [] cs

end Text

namespace Suggestion

/-! ## Rankings -/

/-- Nearer names come first, equally near ones in alphabetical order. -/
def Before (name a b : String) : Prop :=
  nameDistance name a < nameDistance name b ∨ (nameDistance name a = nameDistance name b ∧ a ≤ b)

/-- The candidates within a distance of a name, the nearest first and equally near ones in
alphabetical order. -/
structure IsRanking (name : String) (maxDistance : Nat) (candidates ranking : List String) :
    Prop where
  perm : ranking.Perm (candidates.filter fun c => nameDistance name c ≤ maxDistance)
  sorted : ranking.Pairwise (Before name)

/-- Are the lengths of a candidate and a name, as they are written, within the distance? -/
def lengthWithin (maxDistance : Nat) (name candidate : String) : Bool :=
  candidate.length ≤ name.length + maxDistance && name.length ≤ candidate.length + maxDistance

theorem similarLength_eq (maxDistance : Nat) (candidate name : String) :
    similarLength maxDistance candidate name = lengthWithin maxDistance name candidate := by
  rw [Bool.eq_iff_iff]
  simp only [similarLength, lengthWithin, String.length_toList, decide_eq_true_eq,
    Bool.and_eq_true]
  omega

theorem Before.antisymm {name a b : String} (hab : Before name a b) (hba : Before name b a) :
    a = b := by
  rcases hab with hab | ⟨heq, hab⟩
  · rcases hba with hba | ⟨heq, -⟩ <;> omega
  · rcases hba with hba | ⟨-, hba⟩
    · omega
    · exact String.le_antisymm hab hba

/-- Two orders of the same names are one. -/
theorem eq_of_perm {name : String} {as bs : List String} (hperm : as.Perm bs)
    (ha : as.Pairwise (Before name)) (hb : bs.Pairwise (Before name)) : as = bs :=
  hperm.eq_of_pairwise (fun _ _ _ _ => Before.antisymm) ha hb

theorem IsRanking.eq {name : String} {maxDistance : Nat} {candidates as bs : List String}
    (ha : IsRanking name maxDistance candidates as)
    (hb : IsRanking name maxDistance candidates bs) : as = bs :=
  eq_of_perm (ha.perm.trans hb.perm.symm) ha.sorted hb.sorted

theorem Ranked.le_iff (a b : Ranked) :
    Ranked.le a b = true ↔ a.1 < b.1 ∨ (a.1 = b.1 ∧ a.2 ≤ b.2) := by
  simp only [Ranked.le, Bool.or_eq_true, Bool.and_eq_true, decide_eq_true_eq, beq_iff_eq,
    Bool.not_eq_true', decide_eq_false_iff_not, String.not_lt]

theorem Ranked.le_trans (a b c : Ranked) (hab : Ranked.le a b = true)
    (hbc : Ranked.le b c = true) : Ranked.le a c = true := by
  rw [Ranked.le_iff] at hab hbc ⊢
  rcases hab with hab | ⟨hab, hnames⟩
  · rcases hbc with hbc | ⟨hbc, -⟩ <;> omega
  · rcases hbc with hbc | ⟨hbc, hnames'⟩
    · omega
    · exact .inr ⟨hab.trans hbc, String.le_trans hnames hnames'⟩

theorem Ranked.le_total (a b : Ranked) : (Ranked.le a b || Ranked.le b a) = true := by
  rw [Bool.or_eq_true, Ranked.le_iff, Ranked.le_iff]
  rcases Nat.lt_trichotomy a.1 b.1 with h | h | h
  · exact .inl (.inl h)
  · exact (String.le_total a.2 b.2).imp (fun hle => .inr ⟨h, hle⟩) fun hle => .inr ⟨h.symm, hle⟩
  · exact .inr (.inl h)

/-- Names with their distances in order, those within the distance, without their distances. -/
def rank (name : String) (maxDistance : Nat) (names : List String) : List String :=
  (((names.map fun c => (nameDistance name c, c)).mergeSort Ranked.le).filter
    fun r => (r.1 : Int) ≤ maxDistance).map (·.2)

theorem isRanking_rank (name : String) (maxDistance : Nat) (names : List String) :
    IsRanking name maxDistance names (rank name maxDistance names) := by
  constructor
  · have hperm := (List.mergeSort_perm (names.map fun c => (nameDistance name c, c)) Ranked.le)
    have hnear := (hperm.filter fun r => (r.1 : Int) ≤ maxDistance).map (·.2)
    rw [List.filter_map, List.map_map] at hnear
    simpa [rank, Function.comp_def] using hnear
  · have hsorted := List.pairwise_mergeSort Ranked.le_trans Ranked.le_total
      (names.map fun c => (nameDistance name c, c))
    rw [rank, List.pairwise_map]
    refine (hsorted.sublist List.filter_sublist).imp_of_mem ?_
    intro a b ha hb hle
    obtain ⟨c, -, rfl⟩ := List.mem_map.1 (List.mem_mergeSort.1 (List.mem_filter.1 ha).1)
    obtain ⟨d, -, rfl⟩ := List.mem_map.1 (List.mem_mergeSort.1 (List.mem_filter.1 hb).1)
    exact (Ranked.le_iff _ _).1 hle

/-- Dropping candidates drops them from the ranking. -/
theorem IsRanking.filter {name : String} {maxDistance : Nat} {candidates ranking : List String}
    (h : IsRanking name maxDistance candidates ranking) (p : String → Bool) :
    IsRanking name maxDistance (candidates.filter p) (ranking.filter p) := by
  refine ⟨?_, h.sorted.sublist List.filter_sublist⟩
  have hperm := h.perm.filter p
  rw [List.filter_filter] at hperm ⊢
  simpa only [Bool.and_comm] using hperm

/-- What is suggested: the ranking without the names whose lengths differ too much. -/
theorem similar_eq_take_filter {name : String} {maxDistance : Nat}
    {candidates ranking : List String} (h : IsRanking name maxDistance candidates ranking)
    (limit : Nat) :
    similar name candidates maxDistance limit =
      (ranking.filter (lengthWithin maxDistance name)).take limit := by
  have hrank : rank name maxDistance (candidates.filter (lengthWithin maxDistance name)) =
      ranking.filter (lengthWithin maxDistance name) :=
    (isRanking_rank name maxDistance _).eq (h.filter _)
  have hnear : (candidates.filter fun c => similarLength maxDistance c name) =
      candidates.filter (lengthWithin maxDistance name) :=
    List.filter_congr fun c _ => similarLength_eq maxDistance c name
  rw [similar, hnear, ← hrank, Text.upTo, if_pos (Int.natCast_nonneg limit), Int.toNat_natCast]
  rfl

/-! ## Lengths and distances -/

theorem length_lowered (name : String) :
    (lowered name).length = name.length + name.toList.count 'İ' := by
  rw [lowered, Text.length_lower, String.length_toList]

/-- Lower-case forms whose lengths differ by more than a distance are not within it. -/
theorem length_lowered_le (a b : String) :
    (lowered a).length ≤ (lowered b).length + nameDistance a b ∧
      (lowered b).length ≤ (lowered a).length + nameDistance a b :=
  (Edit.isLeast_distance (lowered a) (lowered b)).1.length_le

/-- No near candidate is dropped that has the letter `İ` as often as the name. -/
theorem lengthWithin_of_count_eq {name candidate : String} {maxDistance : Nat}
    (hnear : nameDistance name candidate ≤ maxDistance)
    (hcount : candidate.toList.count 'İ' = name.toList.count 'İ') :
    lengthWithin maxDistance name candidate = true := by
  have hlengths := length_lowered_le name candidate
  rw [length_lowered, length_lowered, hcount] at hlengths
  simp only [lengthWithin, Bool.and_eq_true, decide_eq_true_eq]
  omega

/-! ## The suggestions -/

theorem take_filter_eq_take_iff {α : Type} (p : α → Bool) (n : Nat) (xs : List α) :
    (xs.filter p).take n = xs.take n ↔ ∀ x ∈ xs.take n, p x = true := by
  constructor
  · intro h x hx
    rw [← h] at hx
    exact (List.mem_filter.1 (List.mem_of_mem_take hx)).2
  · intro h
    induction xs generalizing n with
    | nil => rfl
    | cons x xs ih =>
      cases n with
      | zero => rfl
      | succ n =>
        rw [List.take_succ_cons, List.forall_mem_cons] at h
        rw [List.filter_cons_of_pos h.1, List.take_succ_cons, List.take_succ_cons, ih n h.2]

/-- **When the suggestions are the first names of the ranking.**  The candidates within a distance
have one ranking.  The suggestions are the first names of what is left of it without the names whose
written lengths differ by more than the distance, so they are the first names of the ranking exactly
when none of these is such a name.  None is if the candidates have the letter `İ` as often as the
name. -/
theorem similar_eq_take_ranking_iff (name : String) (candidates : List String)
    (maxDistance limit : Nat) :
    ∃ ranking, IsRanking name maxDistance candidates ranking ∧
      (∀ other, IsRanking name maxDistance candidates other → other = ranking) ∧
      similar name candidates maxDistance limit =
        (ranking.filter (lengthWithin maxDistance name)).take limit ∧
      (similar name candidates maxDistance limit = ranking.take limit ↔
        ∀ c ∈ ranking.take limit, lengthWithin maxDistance name c = true) ∧
      ((∀ c ∈ candidates, c.toList.count 'İ' = name.toList.count 'İ') →
        similar name candidates maxDistance limit = ranking.take limit) := by
  have hranking := isRanking_rank name maxDistance candidates
  have hsimilar := similar_eq_take_filter hranking limit
  have hiff := take_filter_eq_take_iff (lengthWithin maxDistance name) limit
    (rank name maxDistance candidates)
  rw [← hsimilar] at hiff
  refine ⟨_, hranking, fun _ h => h.eq hranking, hsimilar, hiff, fun hcount => hiff.2 ?_⟩
  intro c hc
  obtain ⟨hmem, hnear⟩ := List.mem_filter.1 (hranking.perm.subset (List.mem_of_mem_take hc))
  exact lengthWithin_of_count_eq (of_decide_eq_true hnear) (hcount c hmem)

/-- A candidate with the lower-case form of the name is dropped, since each of four letters is two
characters there. -/
theorem similar_of_dotted_capitals :
    IsRanking "İİİİ" 3 ["i̇i̇i̇i̇"] ["i̇i̇i̇i̇"] ∧
      nameDistance "İİİİ" "i̇i̇i̇i̇" = 0 ∧
      similar "İİİİ" ["i̇i̇i̇i̇"] 3 3 = [] := by
  have hdistance : nameDistance "İİİİ" "i̇i̇i̇i̇" = 0 := by decide +kernel
  refine ⟨⟨?_, List.pairwise_singleton _ _⟩, hdistance, by decide +kernel⟩
  simp [hdistance]

end Suggestion

end TypeMismatch
