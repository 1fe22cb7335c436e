import Mathlib.Data.List.Induction
import Mathlib.Data.List.Nodup
import TypeMismatch.Entries

/-!
# Putting and looking up

Many values put one after another (`putAll`) leave a list in which the names stand in the order of
their first coming (`names_putAll`) and each name has the last value it was given (`get?_putAll`).
-/

namespace TypeMismatch.Entries

variable {α : Type} {name key : String} {value : α} {entries more : Entries α}

@[simp] theorem names_nil : names ([] : Entries α) = [] := rfl

@[simp] theorem names_cons (entry : String × α) (entries : Entries α) :
    names (entry :: entries) = entry.1 :: names entries := rfl

theorem names_append (entries more : Entries α) :
    names (entries ++ more) = names entries ++ names more :=
  List.map_append

@[simp] theorem get?_nil (name : String) : get? name ([] : Entries α) = none := rfl

theorem get?_cons (name : String) (entry : String × α) (entries : Entries α) :
    get? name (entry :: entries) = if entry.1 = name then some entry.2 else get? name entries := by
  rw [get?]
  simp only [beq_iff_eq]

/-! ## Looking up -/

theorem get?_append : get? name (entries ++ more) = (get? name entries).or (get? name more) := by
  induction entries with
  | nil => rfl
  | cons entry entries ih =>
    rw [List.cons_append, get?_cons, get?_cons, ih]
    split <;> rfl

theorem mem_of_get? (h : get? name entries = some value) : (name, value) ∈ entries := by
  induction entries with
  | nil => cases h
  | cons entry entries ih =>
    rw [get?_cons] at h
    split at h
    · next hkey =>
      rw [← hkey, ← Option.some_inj.1 h]
      exact List.mem_cons_self
    · exact List.mem_cons_of_mem _ (ih h)

theorem get?_eq_none_iff : get? name entries = none ↔ name ∉ names entries := by
  induction entries with
  | nil => simp
  | cons entry entries ih =>
    rw [get?_cons, names_cons, List.mem_cons, not_or, ← ih]
    split
    · next hkey => simp [hkey]
    · next hkey => exact ⟨fun h => ⟨Ne.symm hkey, h⟩, And.right⟩

theorem exists_get? (h : name ∈ names entries) : ∃ value, get? name entries = some value := by
  rw [← Option.isSome_iff_exists, Option.isSome_iff_ne_none]
  intro hnone
  exact get?_eq_none_iff.1 hnone h

theorem has_iff : has name entries = true ↔ name ∈ names entries := by
  rw [has, Option.isSome_iff_ne_none, Ne, get?_eq_none_iff, not_not]

theorem get?_of_mem (hnodup : (names entries).Nodup) (h : (name, value) ∈ entries) :
    get? name entries = some value := by
  induction entries with
  | nil => cases h
  | cons entry entries ih =>
    rw [names_cons, List.nodup_cons] at hnodup
    rw [get?_cons]
    rcases List.mem_cons.1 h with rfl | h
    · rw [if_pos rfl]
    · have hmem : name ∈ names entries := List.mem_map_of_mem (f := (·.1)) h
      have hne : entry.1 ≠ name := by
        rintro rfl
        exact hnodup.1 hmem
      rw [if_neg hne]
      exact ih hnodup.2 h

/-! ## Putting one value -/

theorem get?_put (name key : String) (value : α) (entries : Entries α) :
    get? name (put key value entries) = if key = name then some value else get? name entries := by
  induction entries with
  | nil => rw [put, get?_cons, get?_nil]
  | cons entry entries ih =>
    obtain ⟨other, old⟩ := entry
    rw [put]
    by_cases hkey : other = key
    · subst hkey
      rw [if_pos (beq_self_eq_true other), get?_cons, get?_cons]
      split <;> rfl
    · rw [if_neg (by simpa using hkey), get?_cons, get?_cons, ih]
      by_cases hname : other = name
      · subst hname
        rw [if_pos rfl, if_neg (Ne.symm hkey), if_pos rfl]
      · rw [if_neg hname, if_neg hname]

/-- A name that is there keeps its place, and a new one goes last. -/
theorem names_put (key : String) (value : α) (entries : Entries α) :
    names (put key value entries) =
      if key ∈ names entries then names entries else names entries ++ [key] := by
  induction entries with
  | nil => rfl
  | cons entry entries ih =>
    obtain ⟨other, old⟩ := entry
    rw [put]
    by_cases hkey : other = key
    · subst hkey
      simp
    · rw [if_neg (by simpa using hkey), names_cons, names_cons, ih]
      by_cases hmem : key ∈ names entries
      · rw [if_pos hmem, if_pos (List.mem_cons_of_mem other hmem)]
      · rw [if_neg hmem, if_neg (by simp [hmem, Ne.symm hkey]), List.cons_append]

theorem mem_put {entry : String × α} (h : entry ∈ put key value entries) :
    entry = (key, value) ∨ entry ∈ entries := by
  induction entries with
  | nil => exact .inl (List.mem_singleton.1 h)
  | cons first entries ih =>
    rw [put] at h
    split at h
    · next hkey =>
      rcases List.mem_cons.1 h with rfl | h
      · rw [beq_iff_eq] at hkey
        rw [hkey]
        exact .inl rfl
      · exact .inr (List.mem_cons_of_mem _ h)
    · rcases List.mem_cons.1 h with rfl | h
      · exact .inr List.mem_cons_self
      · exact (ih h).imp_right (List.mem_cons_of_mem _)

theorem nodup_put (h : (names entries).Nodup) (key : String) (value : α) :
    (names (put key value entries)).Nodup := by
  rw [names_put]
  split
  · exact h
  · next hmem =>
    rw [← List.concat_eq_append]
    exact h.concat hmem

/-! ## Putting many values -/

theorem putAll_cons (entries : Entries α) (entry : String × α) (more : Entries α) :
    putAll entries (entry :: more) = putAll (put entry.1 entry.2 entries) more := rfl

theorem putAll_append (entries more further : Entries α) :
    putAll entries (more ++ further) = putAll (putAll entries more) further :=
  List.foldl_append

theorem nodup_putAll (h : (names entries).Nodup) (more : Entries α) :
    (names (putAll entries more)).Nodup := by
  induction more generalizing entries with
  | nil => exact h
  | cons entry more ih => exact ih (nodup_put h entry.1 entry.2)

theorem mem_putAll {entry : String × α} (h : entry ∈ putAll entries more) :
    entry ∈ entries ∨ entry ∈ more := by
  induction more generalizing entries with
  | nil => exact .inl h
  | cons first more ih =>
    rcases ih h with h | h
    · rcases mem_put h with rfl | h
      · exact .inr List.mem_cons_self
      · exact .inl h
    · exact .inr (List.mem_cons_of_mem _ h)

/-- The last value that is put under a name stays. -/
theorem get?_putAll (name : String) (entries more : Entries α) :
    get? name (putAll entries more) = (get? name more.reverse).or (get? name entries) := by
  induction more generalizing entries with
  | nil => rfl
  | cons entry more ih =>
    rw [putAll_cons, ih, List.reverse_cons, get?_append, get?_put, get?_cons, get?_nil,
      Option.or_assoc]
    congr 1
    split <;> rfl

theorem eraseDups_of_nodup {names : List String} (h : names.Nodup) : names.eraseDups = names := by
  induction names with
  | nil => rfl
  | cons name names ih =>
    rw [List.nodup_cons] at h
    have hfilter : names.filter (fun other => !other == name) = names := by
      rw [List.filter_eq_self]
      intro other hother
      have hne : other ≠ name := fun he => h.1 (he ▸ hother)
      simpa using hne
    rw [List.eraseDups_cons, hfilter, ih h.2]

/-- The names stand in the order of their first coming. -/
theorem names_putAll (h : (names entries).Nodup) (more : Entries α) :
    names (putAll entries more) = (names entries ++ names more).eraseDups := by
  induction more generalizing entries with
  | nil =>
    rw [names_nil, List.append_nil, eraseDups_of_nodup h]
    rfl
  | cons entry more ih =>
    rw [putAll_cons, ih (nodup_put h entry.1 entry.2), names_put, names_cons]
    split
    · -- a name that is there already adds nothing to what comes first
      next hmem =>
      have hdrop : (entry.1 :: names more).removeAll (names entries) =
          (names more).removeAll (names entries) := by
        simp [List.removeAll, hmem]
      rw [List.eraseDups_append, List.eraseDups_append, hdrop]
    · rw [List.append_assoc, List.singleton_append]

theorem mem_names_put_iff :
    name ∈ names (put key value entries) ↔ name = key ∨ name ∈ names entries := by
  rw [names_put]
  split
  · next hkey =>
    constructor
    · exact .inr
    · rintro (rfl | h)
      · exact hkey
      · exact h
  · rw [List.mem_append, List.mem_singleton, or_comm]

theorem mem_names_putAll_iff :
    name ∈ names (putAll entries more) ↔ name ∈ names entries ∨ name ∈ names more := by
  induction more generalizing entries with
  | nil => simp [putAll]
  | cons entry more ih =>
    rw [putAll_cons, ih, mem_names_put_iff, names_cons, List.mem_cons, or_assoc, or_left_comm]

/-! ## Putting the same values again -/

theorem put_put (key : String) (old value : α) (entries : Entries α) :
    put key value (put key old entries) = put key value entries := by
  induction entries with
  | nil => simp [put]
  | cons entry entries ih =>
    obtain ⟨other, first⟩ := entry
    by_cases hkey : other = key
    · simp [put, hkey]
    · simp [put, hkey, ih]

/-- A value goes into its place before or after another name gets one. -/
theorem put_comm {other : String} (hne : key ≠ other) (hkey : key ∈ names entries)
    (value : α) (more : α) :
    put key value (put other more entries) = put other more (put key value entries) := by
  induction entries with
  | nil => cases hkey
  | cons entry entries ih =>
    obtain ⟨first, old⟩ := entry
    rw [names_cons, List.mem_cons] at hkey
    by_cases hfirst : first = key
    · subst hfirst
      simp [put, hne]
    · have hrest := ih (hkey.resolve_left (Ne.symm hfirst))
      by_cases hother : first = other
      · subst hother
        simp [put, hfirst]
      · simp [put, hfirst, hother, hrest]

/-- What is put last under a name need not be put before. -/
theorem put_putAll_put (hmore : ∀ name ∈ names more, name ∈ names entries) (key : String)
    (value : α) :
    put key value (putAll (put key value entries) more) = put key value (putAll entries more) := by
  induction more generalizing entries with
  | nil => exact put_put key value value entries
  | cons entry more ih =>
    obtain ⟨other, first⟩ := entry
    rw [names_cons, List.forall_mem_cons] at hmore
    rw [putAll_cons, putAll_cons]
    by_cases hkey : other = key
    · rw [hkey, put_put]
    · rw [put_comm hkey hmore.1]
      apply ih
      intro name hname
      exact mem_names_put_iff.2 (.inr (hmore.2 name hname))

theorem putAll_again (entries more : Entries α) :
    putAll (putAll entries more) more = putAll entries more := by
  -- the last value is put again at the end, so it may be left out of what the others are put on
  induction more using List.reverseRecOn with
  | nil => rfl
  | append_singleton more entry ih =>
    have hput (entries : Entries α) :
        putAll entries (more ++ [entry]) = put entry.1 entry.2 (putAll entries more) :=
      putAll_append entries more [entry]
    rw [hput, hput, put_putAll_put, ih]
    intro name hname
    exact mem_names_putAll_iff.2 (.inr hname)

/-! ## All values of a name -/

/-- All values under a name, in their order. -/
def getAll (name : String) (entries : Entries α) : List α :=
  (entries.filter fun entry => entry.1 == name).map (·.2)

theorem getAll_cons (name : String) (entry : String × α) (entries : Entries α) :
    getAll name (entry :: entries) =
      if entry.1 = name then entry.2 :: getAll name entries else getAll name entries := by
  by_cases h : entry.1 = name <;> simp [getAll, h]

theorem getAll_append (name : String) (entries more : Entries α) :
    getAll name (entries ++ more) = getAll name entries ++ getAll name more := by
  rw [getAll, List.filter_append, List.map_append]
  rfl

theorem getAll_eq_nil (h : name ∉ names entries) : getAll name entries = [] := by
  induction entries with
  | nil => rfl
  | cons entry entries ih =>
    rw [names_cons, List.mem_cons, not_or] at h
    rw [getAll_cons, if_neg (Ne.symm h.1), ih h.2]

theorem getAll_of_nodup (h : (names entries).Nodup) :
    getAll name entries = (get? name entries).toList := by
  induction entries with
  | nil => rfl
  | cons entry entries ih =>
    rw [names_cons, List.nodup_cons] at h
    rw [getAll_cons, get?_cons]
    split
    · next hkey => rw [getAll_eq_nil (hkey ▸ h.1), Option.toList_some]
    · exact ih h.2

theorem names_perm {other : Entries α} (h : entries.Perm other) :
    (names entries).Perm (names other) :=
  h.map _

theorem get?_of_perm {other : Entries α} (hnodup : (names entries).Nodup)
    (h : entries.Perm other) (name : String) : get? name other = get? name entries := by
  have hother : (names other).Nodup := (names_perm h).nodup hnodup
  cases hvalue : get? name entries with
  | none =>
    rw [get?_eq_none_iff] at hvalue ⊢
    exact fun hname => hvalue ((names_perm h).mem_iff.2 hname)
  | some value => exact get?_of_mem hother (h.mem_iff.1 (mem_of_get? hvalue))

/-- A name that occurs once may be taken to the front. -/
theorem perm_front (hnodup : (names entries).Nodup) (h : get? name entries = some value) :
    entries.Perm ((name, value) :: entries.filter fun entry => entry.1 != name) := by
  induction entries with
  | nil => cases h
  | cons entry entries ih =>
    rw [names_cons, List.nodup_cons] at hnodup
    rw [get?_cons] at h
    split at h
    · next hkey =>
      -- the name is not among the other entries, so all of them are kept
      have hkept : entries.filter (fun entry => entry.1 != name) = entries := by
        refine List.filter_eq_self.2 fun other hother => bne_iff_ne.2 ?_
        rintro rfl
        exact hnodup.1 (hkey ▸ List.mem_map_of_mem hother)
      obtain ⟨key, old⟩ := entry
      cases hkey
      cases h
      rw [List.filter_cons_of_neg (by simp), hkept]
    · next hkey =>
      have hfront : (entry.1 != name) = true := bne_iff_ne.2 hkey
      rw [List.filter_cons, if_pos hfront]
      exact ((ih hnodup.2 h).cons entry).trans (.swap (name, value) entry _)

theorem getAll_of_perm {other : Entries α} (hnodup : (names entries).Nodup)
    (h : entries.Perm other) (name : String) : getAll name other = getAll name entries := by
  rw [getAll_of_nodup ((names_perm h).nodup hnodup), getAll_of_nodup hnodup,
    get?_of_perm hnodup h]

end TypeMismatch.Entries
