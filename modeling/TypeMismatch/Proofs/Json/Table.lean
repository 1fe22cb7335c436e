import Mathlib.Data.List.Basic
import TypeMismatch.Json.Table

/-!
# Keys of a table

In a table each key occurs once (`keysDiffer_table`), and pairs whose keys differ are a table as
they are.  With strings as keys, making a table is putting entries by name (`table_strings`).
-/

namespace TypeMismatch.Json

variable {key value : Json} {entries : List (Json × Json)}

/-- No two of the keys are the same. -/
def KeysDiffer (entries : List (Json × Json)) : Prop :=
  (entries.map Prod.fst).Pairwise fun first second => sameKey first second = false

/-- A key that is there keeps its place, and a new one goes last. -/
theorem keys_putKey (key value : Json) (entries : List (Json × Json)) :
    (putKey key value entries).map Prod.fst =
      if entries.any fun entry => sameKey entry.1 key then entries.map Prod.fst
      else entries.map Prod.fst ++ [key] := by
  induction entries with
  | nil => rfl
  | cons entry entries ih =>
    obtain ⟨other, old⟩ := entry
    rw [putKey, List.any_cons]
    cases hsame : sameKey other key with
    | true => rfl
    | false =>
      rw [if_neg nofun, List.map_cons, ih, Bool.false_or]
      split <;> rfl

theorem putKey_of_new (h : ∀ entry ∈ entries, sameKey entry.1 key = false) :
    putKey key value entries = entries ++ [(key, value)] := by
  induction entries with
  | nil => rfl
  | cons entry entries ih =>
    obtain ⟨hfirst, hrest⟩ := List.forall_mem_cons.1 h
    obtain ⟨other, old⟩ := entry
    rw [putKey, hfirst, if_neg nofun, ih hrest, List.cons_append]

theorem KeysDiffer.putKey (h : KeysDiffer entries) (key value : Json) :
    KeysDiffer (putKey key value entries) := by
  rw [KeysDiffer, keys_putKey]
  split
  · exact h
  · next hnew =>
    rw [List.pairwise_append]
    refine ⟨h, List.pairwise_singleton _ _, ?_⟩
    intro other hother last hlast
    obtain ⟨entry, hentry, rfl⟩ := List.mem_map.1 hother
    rw [List.mem_singleton.1 hlast, Bool.eq_false_iff]
    exact fun hsame => hnew (List.any_eq_true.2 ⟨entry, hentry, hsame⟩)

theorem keysDiffer_foldl (h : KeysDiffer entries) (pairs : List (Json × Json)) :
    KeysDiffer (pairs.foldl (fun sofar pair => putKey pair.1 pair.2 sofar) entries) := by
  induction pairs generalizing entries with
  | nil => exact h
  | cons pair pairs ih => exact ih (h.putKey pair.1 pair.2)

/-- In a table a key occurs once. -/
theorem keysDiffer_table (pairs : List (Json × Json)) : KeysDiffer (table pairs) :=
  keysDiffer_foldl (show KeysDiffer [] from List.Pairwise.nil) pairs

/-- Pairs with different keys are a table already. -/
theorem table_eq_self {pairs : List (Json × Json)} (h : KeysDiffer pairs) :
    table pairs = pairs := by
  have hall : ∀ entries, KeysDiffer (entries ++ pairs) →
      pairs.foldl (fun sofar pair => putKey pair.1 pair.2 sofar) entries = entries ++ pairs := by
    clear h
    induction pairs with
    | nil => exact fun entries _ => (List.append_nil entries).symm
    | cons pair pairs ih =>
      intro entries hdiffer
      have hnew : ∀ entry ∈ entries, sameKey entry.1 pair.1 = false := by
        intro entry hentry
        rw [KeysDiffer, List.map_append, List.pairwise_append] at hdiffer
        exact hdiffer.2.2 entry.1 (List.mem_map_of_mem hentry) pair.1 List.mem_cons_self
      rw [List.foldl_cons, putKey_of_new hnew, ih _ (by rwa [List.append_assoc]),
        List.append_assoc]
      rfl
  exact hall [] h

theorem table_table (pairs : List (Json × Json)) : table (table pairs) = table pairs :=
  table_eq_self (keysDiffer_table pairs)

theorem putKey_string (name : String) (value : Json) (members : Entries Json) :
    putKey (.string name) value (members.map fun member => (.string member.1, member.2)) =
      (Entries.put name value members).map fun member => (.string member.1, member.2) := by
  induction members with
  | nil => rfl
  | cons member members ih =>
    obtain ⟨key, old⟩ := member
    have hsame : sameKey (.string key) (.string name) = (key == name) := rfl
    rw [List.map_cons, putKey, Entries.put, hsame, ih]
    split <;> rfl

/-- With strings as keys a table is an object. -/
theorem table_strings (members : Entries Json) :
    table (members.map fun member => (.string member.1, member.2)) =
      (Entries.putAll [] members).map fun member => (.string member.1, member.2) := by
  have hall : ∀ entries : Entries Json,
      (members.map fun member => (Json.string member.1, member.2)).foldl
          (fun sofar pair => putKey pair.1 pair.2 sofar)
          (entries.map fun member => (.string member.1, member.2)) =
        (Entries.putAll entries members).map fun member => (.string member.1, member.2) := by
    induction members with
    | nil => exact fun _ => rfl
    | cons member members ih =>
      intro entries
      rw [List.map_cons, List.foldl_cons, putKey_string, ih]
      rfl
  exact hall []

end TypeMismatch.Json
