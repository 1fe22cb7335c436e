import TypeMismatch.Proofs.Entries
import TypeMismatch.Proofs.Failure
import TypeMismatch.Proofs.Json.Table
import TypeMismatch.Proofs.Template.Standard

/-!
# What the steps on a set do

Adding a template or some codes puts entries into the two lists of a set.  Codes are added if every
one of them has a normal form and is given the name of a template of the set, else none of them is
(`withCodes_eq_ok_iff`).  Both kinds of step keep a set well formed: each template stands under its
own name, and each code has a template.
-/

namespace TypeMismatch.TemplateSet

variable {set next : TemplateSet}

/-! ## Codes -/

/-- The normal form of a code and the name it is given. -/
def pair? : Json × Json → Option (String × String)
  | (code, .string name) => (Code.normalize? code).map fun key => (key, name)
  | _ => none

/-- The codes that some entries give, in normal form. -/
def pairs (codes : List (Json × Json)) : Entries String := codes.filterMap pair?

theorem resolveName_eq_ok_iff {key name : String} {value : Json} :
    set.resolveName key value = .ok name ↔ value = .string name ∧ name ∈ set.names := by
  rw [names, ← Entries.has_iff]
  cases value with
  | string given =>
    rw [resolveName, Json.string.injEq]
    constructor
    · intro h
      split at h
      · next hgiven =>
        cases h
        exact ⟨rfl, hgiven⟩
      · cases h
    · rintro ⟨rfl, hgiven⟩
      rw [if_pos hgiven]
  | array items => exact ⟨nofun, fun h => nomatch h.1⟩
  | object members => exact ⟨nofun, fun h => nomatch h.1⟩
  | _ =>
    refine ⟨fun h => ?_, fun h => nomatch h.1⟩
    obtain ⟨shown, -, h⟩ := bind_eq_ok_iff.1 h
    cases h

theorem assign_eq_ok_iff {code value : Json} :
    set.assign code value = .ok next ↔
      ∃ pair, pair? (code, value) = some pair ∧ pair.2 ∈ set.names ∧
        next = { set with codes := Entries.put pair.1 pair.2 set.codes } := by
  unfold assign
  cases hkey : Code.normalize? code with
  | none =>
    constructor
    · cases code.display? <;> rintro ⟨⟩
    · rintro ⟨pair, hpair, -⟩
      cases value <;> simp [pair?, hkey] at hpair
  | some key =>
    simp only [bind_eq_ok_iff, resolveName_eq_ok_iff]
    constructor
    · rintro ⟨name, ⟨rfl, hname⟩, h⟩
      refine ⟨(key, name), ?_, hname, (Except.ok.inj h).symm⟩
      rw [pair?, hkey, Option.map_some]
    · rintro ⟨pair, hpair, hname, rfl⟩
      cases value with
      | string name =>
        rw [pair?, hkey, Option.map_some, Option.some_inj] at hpair
        subst hpair
        exact ⟨name, ⟨rfl, hname⟩, rfl⟩
      | _ => cases hpair

theorem withCodes_cons (set : TemplateSet) (entry : Json × Json) (codes : List (Json × Json)) :
    set.withCodes (entry :: codes) =
      set.assign entry.1 entry.2 >>= fun next => next.withCodes codes :=
  List.foldlM_cons

/-- Codes in a table under strings are those of an object. -/
theorem withCodes_table (set : TemplateSet) (members : Entries Json) :
    set.withCodes (Json.table (codesOfMembers members)) =
      set.withCodes (codesOfMembers (Entries.putAll [] members)) :=
  congrArg set.withCodes (Json.table_strings members)

/-- Codes are added all together, if each of them can be, or not at all. -/
theorem withCodes_eq_ok_iff {codes : List (Json × Json)} :
    set.withCodes codes = .ok next ↔
      (∀ entry ∈ codes, ∃ pair, pair? entry = some pair ∧ pair.2 ∈ set.names) ∧
        next = { set with codes := Entries.putAll set.codes (pairs codes) } := by
  induction codes generalizing set with
  | nil =>
    constructor
    · rintro ⟨⟩
      exact ⟨nofun, rfl⟩
    · rintro ⟨-, rfl⟩
      rfl
  | cons entry codes ih =>
    obtain ⟨code, value⟩ := entry
    rw [withCodes_cons, bind_eq_ok_iff]
    simp only [assign_eq_ok_iff, ih, List.forall_mem_cons]
    constructor
    · rintro ⟨_, ⟨pair, hpair, hname, rfl⟩, hrest, rfl⟩
      refine ⟨⟨⟨pair, hpair, hname⟩, hrest⟩, ?_⟩
      rw [pairs, pairs, List.filterMap_cons_some hpair]
      rfl
    · rintro ⟨⟨⟨pair, hpair, hname⟩, hrest⟩, rfl⟩
      refine ⟨_, ⟨pair, hpair, hname, rfl⟩, hrest, ?_⟩
      rw [pairs, pairs, List.filterMap_cons_some hpair]
      rfl

/-! ## Well formed sets -/

/-- Names and codes occur once, a template stands under its own name, and a code is given the name
of a template. -/
structure WellFormed (set : TemplateSet) : Prop where
  names : set.names.Nodup
  codes : (Entries.names set.codes).Nodup
  own : ∀ entry ∈ set.templates, entry.2.name = entry.1
  known : ∀ entry ∈ set.codes, entry.2 ∈ set.names

theorem wellFormed_empty : empty.WellFormed where
  names := List.nodup_nil
  codes := List.nodup_nil
  own := nofun
  known := nofun

theorem wellFormed_standard : Standard.templates.WellFormed := by
  rw [Standard.templates_eq]
  constructor <;> decide

namespace WellFormed

theorem add (h : set.WellFormed) (t : Template) : (set.add t).WellFormed where
  names := Entries.nodup_put h.names t.name t
  codes := h.codes
  own := by
    intro entry hentry
    rcases Entries.mem_put hentry with rfl | hentry
    · rfl
    · exact h.own entry hentry
  known := by
    intro entry hentry
    have hname := h.known entry hentry
    show entry.2 ∈ Entries.names (Entries.put t.name t set.templates)
    rw [Entries.names_put]
    split
    · exact hname
    · exact List.mem_append_left _ hname

theorem withCodes (h : set.WellFormed) {codes : List (Json × Json)}
    (hcodes : set.withCodes codes = .ok next) : next.WellFormed := by
  obtain ⟨hall, rfl⟩ := withCodes_eq_ok_iff.1 hcodes
  refine ⟨h.names, Entries.nodup_putAll h.codes _, h.own, ?_⟩
  intro pair hpair
  rcases Entries.mem_putAll hpair with hpair | hpair
  · exact h.known pair hpair
  · obtain ⟨entry, hentry, hsome⟩ := List.mem_filterMap.1 hpair
    obtain ⟨pair', hpair', hname⟩ := hall entry hentry
    rw [hsome, Option.some_inj] at hpair'
    rwa [hpair']

theorem name_of_get? (h : set.WellFormed) {name : String} {t : Template}
    (ht : set.get? name = some t) : t.name = name :=
  h.own (name, t) (Entries.mem_of_get? ht)

end WellFormed

end TypeMismatch.TemplateSet
