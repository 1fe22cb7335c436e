import Mathlib.Data.List.Basic
import TypeMismatch.Json.Display

/-!
# Values without a text

A value is shown unless it is an integer with too many digits or holds one
(`shown?_eq_none_iff`).
-/

namespace TypeMismatch

namespace Decimal

/-- An integer is written if its distance from zero is below a power of ten. -/
theorem isWritable_iff {n : Int} :
    isWritable n = true ↔ n.natAbs < Nat.pow 10 Text.maxNumeralDigits := by
  have hdigits : 0 < Text.maxNumeralDigits := by decide
  rw [isWritable, decide_eq_true_iff, naturalText]
  -- the bound is too large a power to be evaluated
  generalize Text.maxNumeralDigits = digits at hdigits ⊢
  exact Nat.length_toDigits_le_iff (by decide) hdigits

theorem integerText?_eq_none_iff {n : Int} : integerText? n = none ↔ isWritable n = false := by
  rw [integerText?]
  cases isWritable n with
  | false => exact iff_of_true rfl rfl
  | true => exact iff_of_false nofun nofun

end Decimal

namespace Json

/-- The value is an integer with too many digits, or holds one. -/
inductive HasLongNumeral : Json → Prop
  | int {n : Int} (long : Decimal.isWritable n = false) : HasLongNumeral (.int n)
  | item {items : List Json} {item : Json} (mem : item ∈ items) (held : HasLongNumeral item) :
      HasLongNumeral (.array items)
  | member {members : List (String × Json)} {member : String × Json} (mem : member ∈ members)
      (held : HasLongNumeral member.2) : HasLongNumeral (.object members)

theorem bind_eq_none_iff {α β : Type} {x : Option α} {f : α → Option β} :
    x >>= f = none ↔ x = none ∨ ∃ a, x = some a ∧ f a = none := by
  cases x <;> simp

theorem map_eq_none_iff {α β : Type} {x : Option α} {f : α → β} :
    (x >>= fun a => pure (f a)) = none ↔ x = none := by
  cases x <;> simp

mutual

theorem shown?_eq_none_iff : ∀ value : Json, shown? value = none ↔ HasLongNumeral value
  | .null => iff_of_false nofun nofun
  | .bool true => iff_of_false nofun nofun
  | .bool false => iff_of_false nofun nofun
  | .int n => by
    rw [shown?, Decimal.integerText?_eq_none_iff]
    exact ⟨.int, fun | .int long => long⟩
  | .float x => iff_of_false nofun nofun
  | .string s => iff_of_false nofun nofun
  | .array items => by
    rw [shown?, map_eq_none_iff, shownItems?_eq_none_iff]
    exact ⟨fun ⟨_, mem, held⟩ => .item mem held, fun | .item mem held => ⟨_, mem, held⟩⟩
  | .object members => by
    rw [shown?, map_eq_none_iff, shownMembers?_eq_none_iff]
    exact ⟨fun ⟨_, mem, held⟩ => .member mem held, fun | .member mem held => ⟨_, mem, held⟩⟩

theorem shownItems?_eq_none_iff :
    ∀ items : List Json, shownItems? items = none ↔ ∃ item ∈ items, HasLongNumeral item
  | [] => iff_of_false nofun (by simp)
  | [item] => by
    rw [shownItems?, shown?_eq_none_iff item]
    simp
  | item :: next :: rest => by
    rw [shownItems?, bind_eq_none_iff, List.exists_mem_cons_iff, ← shown?_eq_none_iff item,
      ← shownItems?_eq_none_iff (next :: rest)]
    simp only [map_eq_none_iff]
    cases shown? item <;> simp

theorem shownMembers?_eq_none_iff :
    ∀ members : List (String × Json),
      shownMembers? members = none ↔ ∃ member ∈ members, HasLongNumeral member.2
  | [] => iff_of_false nofun (by simp)
  | [(name, value)] => by
    rw [shownMembers?, map_eq_none_iff, shown?_eq_none_iff value]
    simp
  | (name, value) :: next :: rest => by
    rw [shownMembers?, bind_eq_none_iff, List.exists_mem_cons_iff, ← shown?_eq_none_iff value,
      ← shownMembers?_eq_none_iff (next :: rest)]
    simp only [map_eq_none_iff]
    cases shown? value <;> simp

end

theorem plain?_eq_none_iff {value : Json} : value.plain? = none ↔ value.HasLongNumeral := by
  cases value with
  | string s => exact iff_of_false nofun nofun
  | _ => rw [plain?, display?, Option.map_eq_none_iff, shown?_eq_none_iff]; exact nofun

end Json

end TypeMismatch
