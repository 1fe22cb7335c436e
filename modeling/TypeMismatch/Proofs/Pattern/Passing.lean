import TypeMismatch.Proofs.Pattern.Ways

/-!
# Passing over a text

A way of a simple node passes over some characters and changes nothing else, so it is described by
these characters (`Place.past`).  A node *passes* a set of texts when its ways at any place are the
beginnings of the rest of the text that belong to the set (`Passes`), and the sets of nodes in
sequence are put together by appending.

The ways of a greedy loop over one character come with the longest first
(`pairwise_stops`).  A group passes what its body passes and remembers it: `captured?_capture`.
-/

namespace TypeMismatch.Pattern

namespace Place

/-- The place behind some of the characters that follow. -/
def past (u : List Char) (s : Place) : Place :=
  { s with position := s.position + u.length, before := u.reverse ++ s.before,
           after := s.after.drop u.length }

@[simp] theorem past_nil (s : Place) : s.past [] = s := rfl

@[simp] theorem position_past (u : List Char) (s : Place) :
    (s.past u).position = s.position + u.length := rfl

@[simp] theorem after_past (u : List Char) (s : Place) :
    (s.past u).after = s.after.drop u.length := rfl

theorem past_append (u v : List Char) (s : Place) : s.past (u ++ v) = (s.past u).past v := by
  simp [past, Nat.add_assoc, List.drop_drop]

theorem prefix_after_past {u v : List Char} {s : Place} (hu : u <+: s.after) :
    v <+: (s.past u).after ↔ u ++ v <+: s.after := by
  obtain ⟨rest, hrest⟩ := hu
  rw [after_past, ← hrest, List.drop_left, List.prefix_append_right_inj]

theorem step?_eq_some_iff {p : Char → Bool} {s t : Place} :
    s.step? p = some t ↔ ∃ c, p c = true ∧ [c] <+: s.after ∧ t = s.past [c] := by
  obtain ⟨position, before, after, marks⟩ := s
  cases after with
  | nil => simp [step?]
  | cons c rest =>
    simp only [step?]
    constructor
    · intro h
      split at h
      · rename_i hc
        exact ⟨c, hc, ⟨rest, rfl⟩, (Option.some_inj.1 h).symm⟩
      · cases h
    · rintro ⟨d, hd, ⟨more, hmore⟩, rfl⟩
      obtain rfl : d = c := (List.cons.inj hmore).1
      rw [if_pos hd]
      rfl

end Place

/-! ## Texts that a node passes -/

/-- The ways at any place pass over the beginnings of the rest of the text that belong to a set. -/
def Passes (ends : Place → List Place) (L : List Char → Prop) : Prop :=
  ∀ s t, t ∈ ends s ↔ ∃ u, L u ∧ u <+: s.after ∧ t = s.past u

theorem passes_step? (p : Char → Bool) :
    Passes (fun s => (s.step? p).toList) fun u => ∃ c, p c = true ∧ u = [c] := by
  intro s t
  rw [Option.mem_toList, Place.step?_eq_some_iff]
  constructor
  · rintro ⟨c, hc, hbegin, rfl⟩
    exact ⟨[c], ⟨c, hc, rfl⟩, hbegin, rfl⟩
  · rintro ⟨_, ⟨c, hc, rfl⟩, hbegin, rfl⟩
    exact ⟨c, hc, hbegin, rfl⟩

theorem passes_nil : Passes (fun s => [s]) fun u => u = [] := by
  intro s t
  rw [List.mem_singleton]
  constructor
  · rintro rfl
    exact ⟨[], rfl, List.nil_prefix, rfl⟩
  · rintro ⟨_, rfl, -, rfl⟩
    rfl

namespace Passes

variable {ends ends' : Place → List Place} {L L' : List Char → Prop}

theorem congr (h : Passes ends L) (hL : ∀ u, L u ↔ L' u) : Passes ends L' := by
  have : L = L' := funext fun u => propext (hL u)
  rwa [← this]

theorem flatMap (h : Passes ends L) (h' : Passes ends' L') :
    Passes (fun s => (ends s).flatMap ends') fun w => ∃ u v, L u ∧ L' v ∧ w = u ++ v := by
  intro s t
  rw [List.mem_flatMap]
  constructor
  · rintro ⟨m, hm, ht⟩
    obtain ⟨u, hu, hbegin, rfl⟩ := (h s m).1 hm
    obtain ⟨v, hv, hbegin', rfl⟩ := (h' _ t).1 ht
    exact ⟨u ++ v, ⟨u, v, hu, hv, rfl⟩, (Place.prefix_after_past hbegin).1 hbegin',
      (Place.past_append u v s).symm⟩
  · rintro ⟨_, ⟨u, v, hu, hv, rfl⟩, hbegin, rfl⟩
    have hfirst : u <+: s.after := (List.prefix_append u v).trans hbegin
    refine ⟨s.past u, (h s _).2 ⟨u, hu, hfirst, rfl⟩, ?_⟩
    exact (h' _ _).2 ⟨v, hv, (Place.prefix_after_past hfirst).2 hbegin, Place.past_append u v s⟩

theorem append (h : Passes ends L) (h' : Passes ends' L') :
    Passes (fun s => ends s ++ ends' s) fun u => L u ∨ L' u := by
  intro s t
  rw [List.mem_append, h s t, h' s t]
  constructor
  · rintro (⟨u, hu, hrest⟩ | ⟨u, hu, hrest⟩)
    · exact ⟨u, .inl hu, hrest⟩
    · exact ⟨u, .inr hu, hrest⟩
  · rintro ⟨u, hu | hu, hrest⟩
    · exact .inl ⟨u, hu, hrest⟩
    · exact .inr ⟨u, hu, hrest⟩

end Passes

/-! ## Loops over one character -/

/-- The longest text that a loop over one character can pass. -/
def longest (p : Char → Bool) (most : Nat) (s : Place) : List Char :=
  (s.after.take most).takeWhile p

theorem advances_eq (p : Char → Bool) (fuel : Nat) (places : List Place) (s : Place) :
    advances p fuel places s =
      ((List.range ((longest p fuel s).length + 1)).reverse.map fun k =>
        s.past (s.after.take k)) ++ places := by
  induction fuel generalizing places s with
  | zero => simp [advances, longest]
  | succ fuel ih =>
    obtain ⟨position, before, after, marks⟩ := s
    cases after with
    | nil => simp [advances, longest, Place.step?]
    | cons c rest =>
      rw [advances]
      by_cases hc : p c = true
      · simp only [Place.step?, hc, if_true, ih]
        have hlongest : longest p (fuel + 1) ⟨position, before, c :: rest, marks⟩ =
            c :: longest p fuel ⟨position + 1, c :: before, rest, marks⟩ := by
          simp [longest, hc]
        rw [hlongest, List.length_cons]
        generalize (longest p fuel ⟨position + 1, c :: before, rest, marks⟩).length + 1 = n
        rw [List.range_succ_eq_map, List.reverse_cons, List.map_append, List.append_assoc,
          ← List.map_reverse, List.map_map]
        congr 1
        apply List.map_congr_left
        intro k _
        exact (Place.past_append [c] (rest.take k) ⟨position, before, c :: rest, marks⟩).symm
      · simp [Place.step?, hc, longest]

theorem prefix_longest_iff {p : Char → Bool} {most : Nat} {s : Place} {u : List Char} :
    u <+: longest p most s ↔ u <+: s.after ∧ u.length ≤ most ∧ ∀ c ∈ u, p c = true := by
  have hlongest : longest p most s <+: s.after.take most := List.takeWhile_prefix p
  constructor
  · intro h
    obtain ⟨hafter, hmost⟩ := List.prefix_take_iff.1 (h.trans hlongest)
    exact ⟨hafter, hmost, fun c hc => List.all_eq_true.1 List.all_takeWhile c (h.subset hc)⟩
  · rintro ⟨hafter, hmost, hp⟩
    obtain ⟨rest, hrest⟩ := List.prefix_take_iff.2 ⟨hafter, hmost⟩
    rw [longest, ← hrest, List.takeWhile_append_of_pos hp]
    exact List.prefix_append u _

theorem longest_begins (p : Char → Bool) (most : Nat) (s : Place) : longest p most s <+: s.after :=
  (prefix_longest_iff.1 (List.prefix_refl _)).1

/-- The places that a loop can end at, by the number of characters passed. -/
theorem stops_eq (p : Char → Bool) (least : Nat) (most : Option Nat) (s : Place) :
    stops p least most s =
      (List.range' least ((longest p (most.getD s.after.length) s).length + 1 - least)).reverse.map
        fun k => s.past (s.after.take k) := by
  simp only [stops, advances_eq, List.append_nil, List.length_map, List.length_reverse,
    List.length_range, ← List.map_take, List.take_reverse]
  congr 2
  generalize (longest p (most.getD s.after.length) s).length + 1 = n
  rw [List.range_eq_range', List.drop_range', Nat.mul_one, Nat.zero_add]
  rcases Nat.le_total least n with h | h
  · rw [Nat.sub_sub_self h]
  · rw [Nat.sub_eq_zero_of_le h, Nat.sub_zero, Nat.sub_self]
    rfl

theorem passes_stops (p : Char → Bool) (least : Nat) (most : Option Nat) :
    Passes (stops p least most) fun u =>
      least ≤ u.length ∧ (∀ m, most = some m → u.length ≤ m) ∧ ∀ c ∈ u, p c = true := by
  intro s t
  rw [stops_eq, List.mem_map]
  constructor
  · rintro ⟨k, hk, rfl⟩
    rw [List.mem_reverse, List.mem_range'_1] at hk
    have hlongest := longest_begins p (most.getD s.after.length) s
    have hle := hlongest.length_le
    have htake : s.after.take k <+: longest p (most.getD s.after.length) s := by
      rw [List.prefix_iff_eq_take.1 hlongest]
      apply List.prefix_take_iff.2
      refine ⟨List.take_prefix k _, ?_⟩
      rw [List.length_take]
      omega
    obtain ⟨hbegin, hmost, hp⟩ := prefix_longest_iff.1 htake
    refine ⟨s.after.take k, ⟨?_, ?_, hp⟩, hbegin, rfl⟩
    · rw [List.length_take]
      omega
    · rintro m rfl
      exact hmost
  · rintro ⟨u, ⟨hleast, hmost, hp⟩, hbegin, rfl⟩
    have hbound : u.length ≤ most.getD s.after.length := by
      cases most with
      | none => exact hbegin.length_le
      | some m => exact hmost m rfl
    have hlongest := (prefix_longest_iff.2 ⟨hbegin, hbound, hp⟩).length_le
    refine ⟨u.length, ?_, ?_⟩
    · rw [List.mem_reverse, List.mem_range'_1]
      omega
    · rw [← List.prefix_iff_eq_take.1 hbegin]

/-- A greedy loop tries longer texts first. -/
theorem pairwise_stops (p : Char → Bool) (least : Nat) (most : Option Nat) (s : Place) :
    (stops p least most s).Pairwise fun a b => b.position < a.position := by
  have hle := (longest_begins p (most.getD s.after.length) s).length_le
  rw [stops_eq, List.pairwise_map, List.pairwise_reverse]
  refine List.Pairwise.imp_of_mem ?_ List.pairwise_lt_range'
  intro i j hi hj hij
  rw [List.mem_range'_1] at hi hj
  rw [Place.position_past, Place.position_past, List.length_take, List.length_take]
  omega

/-! ## Groups -/

namespace Place

/-- The place behind a text that a group has captured. -/
def capture (index : Nat) (u : List Char) (s : Place) : Place :=
  ((s.mark (2 * index)).past u).mark (2 * index + 1)

@[simp] theorem after_capture (index : Nat) (u : List Char) (s : Place) :
    (s.capture index u).after = s.after.drop u.length := rfl

/-- The place is where its characters say that it is. -/
def Located (s : Place) : Prop := s.position = s.before.length

theorem Located.past {s : Place} (h : s.Located) (u : List Char) : (s.past u).Located := by
  unfold Located at h ⊢
  simp [Place.past, h, Nat.add_comm]

theorem Located.capture {s : Place} (h : s.Located) (index : Nat) (u : List Char) :
    (s.capture index u).Located :=
  Located.past (s := s.mark (2 * index)) h u

/-- All characters of the text. -/
def whole (s : Place) : List Char := s.before.reverse ++ s.after

theorem whole_past {u : List Char} {s : Place} (hu : u <+: s.after) :
    (s.past u).whole = s.whole := by
  obtain ⟨rest, hrest⟩ := hu
  simp [whole, past, ← hrest]

theorem whole_capture {u : List Char} {s : Place} (hu : u <+: s.after) (index : Nat) :
    (s.capture index u).whole = s.whole :=
  whole_past (s := s.mark (2 * index)) hu

theorem captured?_eq_of_span {s t : Place} {index : Nat} (hspan : s.span? index = t.span? index)
    (hwhole : s.whole = t.whole) : s.captured? index = t.captured? index := by
  unfold whole at hwhole
  rw [captured?, captured?, hspan, hwhole]

theorem captured?_past {u : List Char} {s : Place} (hu : u <+: s.after) (index : Nat) :
    (s.past u).captured? index = s.captured? index :=
  captured?_eq_of_span rfl (whole_past hu)

/-- A group remembers what it has passed. -/
theorem captured?_capture {s : Place} (hs : s.Located) {u : List Char} (hu : u <+: s.after)
    (index : Nat) : (s.capture index u).captured? index = some u := by
  have hspan : (s.capture index u).span? index = some (s.position, s.position + u.length) := by
    have hne : (2 * index + 1 == 2 * index) = false := by simp
    simp [span?, mark?, capture, mark, past, hne]
  have hwhole := whole_capture hu index
  obtain ⟨rest, hrest⟩ := hu
  unfold whole at hwhole
  rw [captured?, hspan, hwhole, ← hrest, Option.map_some, hs, ← List.length_reverse]
  simp only [List.drop_left, Nat.add_sub_cancel_left, List.take_left]

theorem captured?_capture_of_ne {s : Place} {u : List Char} (hu : u <+: s.after)
    {index other : Nat} (h : index ≠ other) :
    (s.capture other u).captured? index = s.captured? index := by
  apply captured?_eq_of_span _ (whole_capture hu other)
  have hmark : ∀ i, i ≠ 2 * other → i ≠ 2 * other + 1 →
      (s.capture other u).mark? i = s.mark? i := by
    intro i hstart hend
    simp [mark?, capture, mark, past, hstart.symm, hend.symm]
  rw [span?, span?, hmark _ (by omega) (by omega), hmark _ (by omega) (by omega)]

end Place

end TypeMismatch.Pattern
