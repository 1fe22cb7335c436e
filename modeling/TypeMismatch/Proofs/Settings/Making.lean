import TypeMismatch.Proofs.Settings.Layering

/-!
# Other ways to make settings

Settings can be made from overrides and a ready set of templates, or from values for their fields.
Both ways agree with loading on top of the standard settings where loading can say the same
(`loadWith_eq_ok_iff`, `load_eq_ok_iff_ofValues`).
-/

namespace TypeMismatch.Settings

variable {platform : Platform} {set : TemplateSet} {members values : Entries Json} {c : Settings}

/-- Loading with a set of templates is loading on top of the standard settings, with the set for
their templates unless the overrides bring templates of their own. -/
theorem loadWith_eq_ok_iff (hnodup : (Entries.names members).Nodup) :
    loadWith platform set members = .ok c ↔
      (if given? members .templates = none then { standard with templates := set }
        else standard).load platform (.object members) = .ok c := by
  unfold loadWith
  dsimp only
  rw [load_object, given?]
  cases hgiven : Entries.get? Setting.templates.name members with
  | none => rw [if_pos rfl]
  | some value =>
    have hperm := Entries.perm_front hnodup hgiven
    have hfront := (Entries.names_perm hperm).nodup hnodup
    rw [if_neg (Option.some_ne_none value), merge_eq_ok_iff, merge_eq_ok_iff]
    -- the templates come first now, which makes no difference to what is said
    constructor
    · rintro ⟨layer, hsaid, hlayer⟩
      exact ⟨layer, hsaid.of_perm hfront hperm.symm, hlayer⟩
    · rintro ⟨layer, hsaid, hlayer⟩
      exact ⟨layer, hsaid.of_perm hnodup hperm, hlayer⟩

/-! ## Values of fields -/

theorem isField_iff {name : String} :
    isField name = true ↔ Setting.ofName? name ≠ none ∧ name ≠ Setting.codes.name := by
  unfold isField
  cases hname : Setting.ofName? name with
  | none => exact iff_of_false nofun fun h => h.1 rfl
  | some setting =>
    rw [ofName?_eq_some_iff] at hname
    subst hname
    cases setting <;> decide

theorem all_isField_iff :
    (values.all fun value => isField value.1) = true ↔
      (∀ name ∈ Entries.names values, Setting.ofName? name ≠ none) ∧
        given? values .codes = none := by
  rw [given?, Entries.get?_eq_none_iff, List.all_eq_true]
  constructor
  · intro h
    have hfields : ∀ name ∈ Entries.names values, isField name = true := by
      intro name hname
      obtain ⟨value, hvalue, rfl⟩ := List.mem_map.1 hname
      exact h value hvalue
    refine ⟨fun name hname => (isField_iff.1 (hfields name hname)).1, fun hcodes => ?_⟩
    exact (isField_iff.1 (hfields _ hcodes)).2 rfl
  · rintro ⟨hknown, hcodes⟩ value hvalue
    have hname : value.1 ∈ Entries.names values := List.mem_map_of_mem hvalue
    exact isField_iff.2 ⟨hknown _ hname, fun h => hcodes (h ▸ hname)⟩

theorem refuseTemplates_eq_ok_iff {given : Option Json} {u : Unit} :
    refuseTemplates given = .ok u ↔ given = none := by
  cases given with
  | none => exact iff_of_true rfl rfl
  | some value => exact iff_of_false nofun nofun

/-- The groups that values give, or the standard ones. -/
def groupsGiven (values : Entries Json) : Except Failure (Entries String) :=
  match given? values .highlightGroups with
  | none => .ok standard.highlightGroups
  | some groups => readGroups groups

theorem ofValues_eq_ok_iff :
    ofValues values = .ok c ↔
      ((∀ name ∈ Entries.names values, Setting.ofName? name ≠ none) ∧
        given? values .codes = none) ∧ given? values .templates = none ∧
        ∃ plain groups, ReadsValues (given? values) plain ∧ groupsGiven values = .ok groups ∧
          c = { plain.on standard with highlightGroups := groups } := by
  rw [← all_isField_iff]
  unfold ofValues
  split
  · next hfields =>
    rw [and_iff_right hfields]
    simp only [bind_eq_ok_iff, mergeValues_eq_ok_iff, refuseTemplates_eq_ok_iff, groupsGiven]
    cases given? values .highlightGroups with
    | none =>
      constructor
      · rintro ⟨_, ⟨plain, hplain, rfl⟩, _, htemplates, h⟩
        exact ⟨htemplates, plain, _, hplain, rfl, (Except.ok.inj h).symm⟩
      · rintro ⟨htemplates, plain, groups, hplain, hgroups, rfl⟩
        rw [← Except.ok.inj hgroups]
        exact ⟨_, ⟨plain, hplain, rfl⟩, (), htemplates, rfl⟩
    | some value =>
      simp only [bind_eq_ok_iff]
      constructor
      · rintro ⟨_, ⟨plain, hplain, rfl⟩, _, htemplates, groups, hgroups, h⟩
        exact ⟨htemplates, plain, groups, hplain, hgroups, (Except.ok.inj h).symm⟩
      · rintro ⟨htemplates, plain, groups, hplain, hgroups, rfl⟩
        exact ⟨_, ⟨plain, hplain, rfl⟩, (), htemplates, groups, hgroups, rfl⟩
  · next hfields =>
    refine iff_of_false ?_ fun h => hfields h.1
    intro h
    cases h

theorem on_of_plain (plain : Values) (more : Entries String) (s : Settings) :
    (Layer.mk plain more [] []).on s =
      { plain.on s with highlightGroups := Entries.putAll s.highlightGroups more } := rfl

/-- Standard groups stay as they are under the standard groups. -/
theorem putAll_standard_standard :
    Entries.putAll standard.highlightGroups standard.highlightGroups =
      standard.highlightGroups := by
  decide

/-- On top of the standard groups it makes no difference whether the given ones replaced them. -/
theorem putAll_groupsOf_iff (hnodup : (Entries.names values).Nodup) {groups : Entries String} :
    (∃ more, groupsOf values = .ok more ∧
        groups = Entries.putAll standard.highlightGroups more) ↔
      ∃ given, groupsGiven values = .ok given ∧
        groups = Entries.putAll standard.highlightGroups given := by
  rw [groupsOf, Entries.getAll_of_nodup hnodup, groupsGiven, given?]
  cases Entries.get? Setting.highlightGroups.name values with
  | none =>
    constructor
    · rintro ⟨more, hmore, rfl⟩
      cases hmore
      exact ⟨standard.highlightGroups, rfl, putAll_standard_standard.symm⟩
    · rintro ⟨given, hgiven, rfl⟩
      cases hgiven
      exact ⟨[], rfl, putAll_standard_standard⟩
  | some value => rw [Option.toList_some, readAll_singleton]

/-- **Values of fields are overrides of the standard settings.**  Where there are no templates, and
no codes, which are no field, settings are loaded exactly if they can be made from the values, and
differ only in the standard groups, which are kept beside those that are given. -/
theorem load_eq_ok_iff_ofValues (hnodup : (Entries.names values).Nodup)
    (htemplates : given? values .templates = none) (hcodes : given? values .codes = none) :
    standard.load platform (.object values) = .ok c ↔
      ∃ made, ofValues values = .ok made ∧
        c = { made with highlightGroups :=
          Entries.putAll standard.highlightGroups made.highlightGroups } := by
  have hnone : templatesOf platform values = .ok [] := by
    rw [templatesOf, Entries.getAll_of_nodup hnodup, ← given?, htemplates]
    rfl
  have hempty : readCodes (given? values .codes) = some [] := by
    rw [hcodes]
    rfl
  simp only [load_object_eq_ok_iff, ofValues_eq_ok_iff]
  constructor
  · rintro ⟨⟨plain, more, templates, codes⟩, hsaid, -, rfl⟩
    cases hnone.symm.trans hsaid.templates
    cases hempty.symm.trans hsaid.codes
    obtain ⟨given, hgiven, heq⟩ := (putAll_groupsOf_iff hnodup).1 ⟨more, hsaid.groups, rfl⟩
    refine ⟨_, ⟨⟨hsaid.known, hcodes⟩, htemplates, plain, given, hsaid.values, hgiven, rfl⟩, ?_⟩
    rw [on_of_plain, heq]
  · rintro ⟨_, ⟨⟨hknown, -⟩, -, plain, given, hplain, hgiven, rfl⟩, rfl⟩
    obtain ⟨more, hmore, heq⟩ := (putAll_groupsOf_iff hnodup).2 ⟨given, hgiven, rfl⟩
    refine ⟨⟨plain, more, [], []⟩, ⟨hknown, hplain, hmore, hnone, hempty⟩,
      List.forall_mem_nil _, ?_⟩
    rw [on_of_plain, ← heq]

end TypeMismatch.Settings
