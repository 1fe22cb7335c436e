import TypeMismatch.Code
import TypeMismatch.Proofs.Text.Blank

/-!
# Spellings of a code

A code is spelled by its number, if that can be written, or by a text with the number's digits, the
two letters in front of them or not, and any blanks around.  All spellings of a number have one
normal form (`Spells.normalize?_eq`).  The normal form of another text may have blanks or the two
letters in front again; it is its own normal form if it has not (`normalForm_normalForm_iff`).
-/

namespace TypeMismatch.Code

open Decimal (integerText)

/-- The value spells the code with a number. -/
inductive Spells (n : Int) : Json → Prop
  | number (writable : Decimal.isWritable n = true) : Spells n (.int n)
  | digits {u v : List Char} (left : ∀ c ∈ u, Text.isBlank c = true)
      (right : ∀ c ∈ v, Text.isBlank c = true) :
      Spells n (.string (String.ofList (u ++ (integerText n ++ v))))
  | lettered {u v : List Char} {t s : Char} (left : ∀ c ∈ u, Text.isBlank c = true)
      (right : ∀ c ∈ v, Text.isBlank c = true) (first : isLetterT t = true)
      (second : isLetterS s = true) :
      Spells n (.string (String.ofList (u ++ (t :: s :: integerText n ++ v))))

/-- A character of a number. -/
def IsNumeral (c : Char) : Prop := c = '-' ∨ c.isDigit = true

theorem isNumeral_of_mem {n : Int} {c : Char} (h : c ∈ integerText n) : IsNumeral c := by
  have hdigit : c ∈ Decimal.naturalText n.natAbs → IsNumeral c := fun h =>
    .inr (Nat.isDigit_of_mem_toDigits (by decide) (by decide) h)
  rw [integerText] at h
  split at h
  · rcases List.mem_cons.1 h with rfl | h
    · exact .inl rfl
    · exact hdigit h
  · exact hdigit h

theorem integerText_ne_nil (n : Int) : integerText n ≠ [] := by
  rw [integerText]
  split
  · exact List.cons_ne_nil _ _
  · exact Nat.toDigits_ne_nil

theorem IsNumeral.isBlank_eq_false {c : Char} (h : IsNumeral c) : Text.isBlank c = false := by
  rcases h with rfl | h
  · rfl
  · have hrange := Text.toNat_of_isDigit h
    exact Text.isBlank_of_visible (by omega) (by omega)

theorem IsNumeral.isLetterT_eq_false {c : Char} (h : IsNumeral c) : isLetterT c = false := by
  rcases h with rfl | h
  · rfl
  · rw [isLetterT, Bool.or_eq_false_iff, beq_eq_false_iff_ne, beq_eq_false_iff_ne]
    constructor <;> rintro rfl <;> cases h

theorem isBlank_of_isLetterT {c : Char} (h : isLetterT c = true) : Text.isBlank c = false := by
  rw [isLetterT, Bool.or_eq_true, beq_iff_eq, beq_iff_eq] at h
  rcases h with rfl | rfl <;> rfl

theorem isBlank_of_isLetterS {c : Char} (h : isLetterS c = true) : Text.isBlank c = false := by
  rw [isLetterS, Bool.or_eq_true, Bool.or_eq_true, beq_iff_eq, beq_iff_eq, beq_iff_eq] at h
  rcases h with (rfl | rfl) | rfl <;> rfl

theorem withoutLetters_integerText (n : Int) : withoutLetters (integerText n) = integerText n := by
  cases hn : integerText n with
  | nil => rfl
  | cons c cs =>
    have hc : IsNumeral c := isNumeral_of_mem (hn ▸ List.mem_cons_self)
    cases cs with
    | nil => rfl
    | cons d cs => simp [withoutLetters, hc.isLetterT_eq_false]

theorem ofText?_eq_some {cs form : List Char} (h : normalForm cs = form) (hform : form ≠ []) :
    ofText? cs = some (String.ofList form) := by
  rw [ofText?, h]
  cases form with
  | nil => exact absurd rfl hform
  | cons c form => rfl

theorem isBlank_integerText (n : Int) : ∀ c ∈ integerText n, Text.isBlank c = false :=
  fun _ hc => (isNumeral_of_mem hc).isBlank_eq_false

theorem normalize?_int {n : Int} (h : Decimal.isWritable n = true) :
    normalize? (.int n) = ofText? (integerText n) := by
  have hplain : Json.plain? (.int n) = some (String.ofList (integerText n)) := by
    show (Decimal.integerText? n).map String.ofList = _
    rw [Decimal.integerText?, if_pos h]
    rfl
  show (Json.plain? (.int n) >>= fun text => ofText? text.toList) = _
  rw [hplain, Option.bind_eq_bind, Option.bind_some, String.toList_ofList]

/-- All spellings of a code have the same normal form, the number. -/
theorem Spells.normalize?_eq {n : Int} {code : Json} (h : Spells n code) :
    normalize? code = some (String.ofList (integerText n)) := by
  have hsolid := isBlank_integerText n
  have hne := integerText_ne_nil n
  cases h with
  | number writable =>
    have htrim : Text.trim (integerText n) = integerText n := by
      simpa using Text.trim_around (u := []) (v := []) nofun hsolid nofun
    rw [normalize?_int writable]
    refine ofText?_eq_some ?_ hne
    rw [normalForm, htrim, withoutLetters_integerText]
  | @digits u v left right =>
    refine ofText?_eq_some ?_ hne
    show withoutLetters (Text.trim (String.ofList (u ++ (integerText n ++ v))).toList) = _
    rw [String.toList_ofList, Text.trim_around left hsolid right, withoutLetters_integerText]
  | @lettered u v t s left right first second =>
    have hword : ∀ c ∈ t :: s :: integerText n, Text.isBlank c = false := by
      intro c hc
      rcases List.mem_cons.1 hc with rfl | hc
      · exact isBlank_of_isLetterT first
      · rcases List.mem_cons.1 hc with rfl | hc
        · exact isBlank_of_isLetterS second
        · exact hsolid c hc
    refine ofText?_eq_some ?_ hne
    show withoutLetters
      (Text.trim (String.ofList (u ++ (t :: s :: integerText n ++ v))).toList) = _
    rw [String.toList_ofList, Text.trim_around left hword right, withoutLetters, first, second]
    rfl

/-! ## Letters in front of a normal form -/

/-- The text is the normal form of some code. -/
def IsNormal (key : String) : Prop := ∃ code, normalize? code = some key

theorem ofText?_eq_some_iff {cs : List Char} {key : String} :
    ofText? cs = some key ↔ normalForm cs ≠ [] ∧ key = String.ofList (normalForm cs) := by
  rw [ofText?]
  cases normalForm cs with
  | nil => simp
  | cons c form => simp [eq_comm]

theorem exists_ofText?_of_normalize? {code : Json} {key : String} (h : normalize? code = some key) :
    ∃ cs, ofText? cs = some key := by
  unfold normalize? at h
  split at h
  · cases h
  · cases h
  · obtain ⟨text, -, htext⟩ := Option.bind_eq_some_iff.1 h
    exact ⟨_, htext⟩

theorem withoutLetters_suffix (cs : List Char) : withoutLetters cs <:+ cs := by
  match cs with
  | [] => exact List.suffix_refl _
  | [c] => exact List.suffix_refl _
  | c :: d :: rest =>
    rw [withoutLetters]
    split
    · exact ⟨[c, d], rfl⟩
    · exact List.suffix_refl _

theorem isBlank_of_getLast?_normalForm {cs : List Char} {c : Char}
    (h : (normalForm cs).getLast? = some c) : Text.isBlank c = false := by
  obtain ⟨front, hfront⟩ := withoutLetters_suffix (Text.trim cs)
  apply Text.isBlank_of_getLast?_trim cs
  rw [← hfront, List.getLast?_append, show (withoutLetters (Text.trim cs)).getLast? = some c from h]
  rfl

/-- The two letters are taken off again, and nothing else is. -/
theorem normalForm_lettered {cs : List Char} {t s : Char} (ht : isLetterT t = true)
    (hs : isLetterS s = true) (hne : normalForm cs ≠ []) :
    normalForm (t :: s :: normalForm cs) = normalForm cs := by
  have hend := List.getLast?_eq_some_getLast hne
  have htrim : Text.trim (t :: s :: normalForm cs) = t :: s :: normalForm cs := by
    apply Text.trim_cons_of_getLast? (isBlank_of_isLetterT ht) ?_
      (isBlank_of_getLast?_normalForm hend)
    rw [List.getLast?_cons, List.getLast?_cons, hend]
    rfl
  rw [normalForm, htrim, withoutLetters, ht, hs]
  rfl

theorem IsNormal.exists_normalForm {key : String} (h : IsNormal key) :
    ∃ cs, normalForm cs ≠ [] ∧ key = String.ofList (normalForm cs) := by
  obtain ⟨code, hcode⟩ := h
  obtain ⟨cs, hcs⟩ := exists_ofText?_of_normalize? hcode
  exact ⟨cs, ofText?_eq_some_iff.1 hcs⟩

theorem IsNormal.ne_empty {key : String} (h : IsNormal key) : key ≠ "" := by
  obtain ⟨cs, hne, rfl⟩ := h.exists_normalForm
  intro hempty
  exact hne (String.ofList_injective (hempty.trans String.ofList_nil.symm))

/-- A normal form is found under its lettered spelling. -/
theorem IsNormal.normalize?_lettered {key : String} (h : IsNormal key) :
    normalize? (.string ("TS" ++ key)) = some key := by
  obtain ⟨cs, hne, rfl⟩ := h.exists_normalForm
  show ofText? ("TS" ++ String.ofList (normalForm cs)).toList = _
  have hletters : ("TS" ++ String.ofList (normalForm cs)).toList = 'T' :: 'S' :: normalForm cs := by
    rw [String.toList_append, String.toList_ofList, String.toList_ofList]
    rfl
  rw [hletters]
  exact ofText?_eq_some (normalForm_lettered rfl rfl hne) hne

/-! ## Normal forms of normal forms -/

/-- Does the text begin with the two letters? -/
def isLettered : List Char → Bool
  | c :: d :: _ => isLetterT c && isLetterS d
  | _ => false

/-- Nothing that is taken off in front of a code stands in front of the text: no blank, and not the
two letters once more. -/
structure Settled (cs : List Char) : Prop where
  solid : ∀ c ∈ cs.head?, Text.isBlank c = false
  bare : isLettered cs = false

theorem settled_iff (cs : List Char) :
    Settled cs ↔ (cs.head?.any Text.isBlank = false) ∧ isLettered cs = false := by
  have hhead : cs.head?.any Text.isBlank = false ↔ ∀ c ∈ cs.head?, Text.isBlank c = false := by
    cases cs.head? <;> simp
  rw [hhead]
  exact ⟨fun h => ⟨h.solid, h.bare⟩, fun h => ⟨h.1, h.2⟩⟩

instance (cs : List Char) : Decidable (Settled cs) := decidable_of_iff _ (settled_iff cs).symm

theorem withoutLetters_eq_self_iff (cs : List Char) :
    withoutLetters cs = cs ↔ isLettered cs = false := by
  rcases cs with _ | ⟨c, _ | ⟨d, rest⟩⟩
  · exact iff_of_true rfl rfl
  · exact iff_of_true rfl rfl
  · rw [withoutLetters, isLettered]
    cases isLetterT c && isLetterS d with
    | false => exact iff_of_true rfl rfl
    | true =>
      refine iff_of_false ?_ (by decide)
      intro h
      have hlength := congrArg List.length h
      simp only [if_true, List.length_cons] at hlength
      omega

theorem length_normalForm_le (cs : List Char) : (normalForm cs).length ≤ cs.length :=
  Nat.le_trans (withoutLetters_suffix _).length_le (Text.length_trim_le cs)

theorem normalForm_of_solid {cs : List Char} (hne : normalForm cs ≠ [])
    (hsolid : ∀ c ∈ (normalForm cs).head?, Text.isBlank c = false) :
    normalForm (normalForm cs) = withoutLetters (normalForm cs) := by
  obtain ⟨d, hlast⟩ : ∃ d, (normalForm cs).getLast? = some d :=
    ⟨_, List.getLast?_eq_some_getLast hne⟩
  have hend := isBlank_of_getLast?_normalForm hlast
  rw [normalForm]
  congr 1
  obtain ⟨c, rest, hcons⟩ := List.exists_cons_of_ne_nil hne
  rw [hcons] at hsolid hlast ⊢
  exact Text.trim_cons_of_getLast? (hsolid c rfl) hlast hend

/-- A normal form is normal itself unless a blank or the two letters stand in front of it: the
letters are taken off once, and what they leave is not looked at again. -/
theorem normalForm_normalForm_iff {cs : List Char} (hne : normalForm cs ≠ []) :
    normalForm (normalForm cs) = normalForm cs ↔ Settled (normalForm cs) := by
  constructor
  · intro h
    have hsolid : ∀ c ∈ (normalForm cs).head?, Text.isBlank c = false := by
      intro c hc
      obtain ⟨rest, hrest⟩ := List.head?_eq_some_iff.1 hc
      rw [Bool.eq_false_iff]
      intro hblank
      -- a blank in front would be trimmed, and the text would be shorter than before
      have htrim : normalForm (normalForm cs) = normalForm rest := by
        rw [normalForm, hrest, ← List.singleton_append,
          Text.trim_blank_append (List.forall_mem_singleton.2 hblank), normalForm]
      have hshort := length_normalForm_le rest
      rw [← htrim, h, hrest, List.length_cons] at hshort
      omega
    refine ⟨hsolid, ?_⟩
    rwa [normalForm_of_solid hne hsolid, withoutLetters_eq_self_iff] at h
  · rintro ⟨hsolid, hbare⟩
    rw [normalForm_of_solid hne hsolid, withoutLetters_eq_self_iff]
    exact hbare

theorem normalize?_self_iff {code : Json} {key : String} (h : normalize? code = some key) :
    normalize? (.string key) = some key ↔ Settled key.toList := by
  obtain ⟨cs, hne, rfl⟩ := IsNormal.exists_normalForm ⟨code, h⟩
  show ofText? (String.ofList (normalForm cs)).toList = some _ ↔ _
  rw [String.toList_ofList, ofText?_eq_some_iff, String.ofList_inj,
    ← normalForm_normalForm_iff hne]
  constructor
  · rintro ⟨-, heq⟩
    exact heq.symm
  · intro heq
    exact ⟨heq.symm ▸ hne, heq.symm⟩

end TypeMismatch.Code
