import TypeMismatch.Proofs.Code
import TypeMismatch.Proofs.Pattern.Names
import TypeMismatch.Proofs.Template.History
import TypeMismatch.Proofs.Template.Reading

/-!
# Valid templates and sets

A template is valid if it has a name and its pattern is what its text compiles to, with one group for
each of the two types.  In a valid set each template is, and stands under its name; each code is a
normal form, so that a code is found by its lettered spelling (`Valid.forCode?_lettered`).
-/

namespace TypeMismatch

namespace Template

variable {platform : Platform} {t : Template} {name pattern labels : Json}

/-- The labels need no condition, since there are always two of them. -/
structure Valid (platform : Platform) (t : Template) : Prop where
  named : t.name ≠ ""
  compiled : Pattern.compile platform.characterNamed? t.pattern.source = .ok t.pattern
  groups : t.pattern.groups = requiredGroups

theorem source_of_compile {names : Pattern.CharacterNames} {source : String} {p : Pattern}
    (h : Pattern.compile names source = .ok p) : p.source = source := by
  obtain ⟨parsed, -, h⟩ := bind_eq_ok_iff.1 h
  split at h
  · cases h
  · split at h
    · cases h
    · rw [← Except.ok.inj h]

theorem compile_of_compileOn {source : String} {p : Pattern}
    (h : Pattern.compileOn platform source = .ok p) :
    Pattern.compile platform.characterNamed? source = .ok p := by
  unfold Pattern.compileOn at h
  split at h
  · cases h
  · exact h

theorem checkName_eq_ok {value : Json} {found : String} (h : checkName value = .ok found) :
    found ≠ "" := by
  unfold checkName at h
  split at h
  · split at h
    · cases h
    · next hempty =>
      cases h
      simpa using hempty
  · cases h

theorem ofPattern_eq_ok {p : Pattern} (h : ofPattern name p labels = .ok t) :
    t.name ≠ "" ∧ t.pattern = p ∧ p.groups = requiredGroups := by
  obtain ⟨found, hname, h⟩ := bind_eq_ok_iff.1 h
  obtain ⟨_, hgroups, h⟩ := bind_eq_ok_iff.1 h
  obtain ⟨read, -, h⟩ := bind_eq_ok_iff.1 h
  cases h
  exact ⟨checkName_eq_ok hname, rfl, checkGroups_eq_ok_iff.1 hgroups⟩

theorem valid_of_ofJson (h : ofJson platform name pattern labels = .ok t) : t.Valid platform := by
  obtain ⟨found, -, h⟩ := bind_eq_ok_iff.1 h
  obtain ⟨p, hp, h⟩ := bind_eq_ok_iff.1 h
  obtain ⟨source, -, -, hread⟩ := readPattern_eq_ok hp
  have hcompiled := compile_of_compileOn hread
  obtain ⟨hname, rfl, hgroups⟩ := ofPattern_eq_ok h
  refine ⟨hname, ?_, hgroups⟩
  rw [source_of_compile hcompiled, hcompiled]

end Template

namespace TemplateSet

variable {platform : Platform} {set : TemplateSet}

/-- A valid template under its own name. -/
structure ValidEntry (platform : Platform) (entry : String × Template) : Prop where
  own : entry.2.name = entry.1
  valid : entry.2.Valid platform

/-- A well formed set of valid templates, with codes in normal form. -/
structure Valid (platform : Platform) (set : TemplateSet) : Prop extends set.WellFormed where
  templates : ∀ entry ∈ set.templates, ValidEntry platform entry
  normal : ∀ entry ∈ set.codes, Code.IsNormal entry.1

theorem normal_of_pairs {codes : List (Json × Json)} :
    ∀ entry ∈ pairs codes, Code.IsNormal entry.1 := by
  intro pair hpair
  obtain ⟨⟨code, value⟩, -, hsome⟩ := List.mem_filterMap.1 hpair
  cases value with
  | string name =>
    obtain ⟨key, hkey, rfl⟩ := Option.map_eq_some_iff.1 hsome
    exact ⟨code, hkey⟩
  | _ => cases hsome

/-- What is put on a valid set keeps it valid, if the codes are given names of templates. -/
theorem Valid.putAll (h : set.Valid platform) {templates : Entries Template}
    {codes : Entries String} (htemplates : ∀ entry ∈ templates, ValidEntry platform entry)
    (hnormal : ∀ entry ∈ codes, Code.IsNormal entry.1)
    (hknown : ∀ entry ∈ codes, entry.2 ∈ set.names ∨ entry.2 ∈ Entries.names templates) :
    (set.putAll templates codes).Valid platform where
  names := Entries.nodup_putAll h.names templates
  codes := Entries.nodup_putAll h.codes codes
  own := by
    intro entry hentry
    rcases Entries.mem_putAll hentry with hentry | hentry
    · exact h.own entry hentry
    · exact (htemplates entry hentry).own
  known := by
    intro entry hentry
    apply Entries.mem_names_putAll_iff.2
    rcases Entries.mem_putAll hentry with hentry | hentry
    · exact .inl (h.known entry hentry)
    · exact hknown entry hentry
  templates := by
    intro entry hentry
    rcases Entries.mem_putAll hentry with hentry | hentry
    · exact h.templates entry hentry
    · exact htemplates entry hentry
  normal := by
    intro entry hentry
    rcases Entries.mem_putAll hentry with hentry | hentry
    · exact h.normal entry hentry
    · exact hnormal entry hentry

/-- With the two letters in front of it, a code of the set asks for the template it is mapped to. -/
theorem Valid.forCode?_lettered (h : set.Valid platform) {key name : String}
    (hcode : (key, name) ∈ set.codes) :
    ∃ t, set.get? name = some t ∧ set.forCode? (.string ("TS" ++ key)) = some t := by
  have hname : set.nameForCode? (.string ("TS" ++ key)) = some name := by
    rw [nameForCode?, (h.normal (key, name) hcode).normalize?_lettered]
    exact Entries.get?_of_mem h.codes hcode
  obtain ⟨t, ht⟩ := Entries.exists_get? (h.known (key, name) hcode)
  refine ⟨t, ht, ?_⟩
  rw [forCode?, hname]
  exact ht

/-! ## The standard set -/

/-- The patterns of the set are what their texts compile to, without the name of any character. -/
def Compiled (set : TemplateSet) : Prop :=
  ∀ entry ∈ set.templates,
    Pattern.compile Pattern.bareNames entry.2.pattern.source = .ok entry.2.pattern

theorem Compiled.addTo (h : set.Compiled) (r : Standard.Recipe) : (r.addTo set).Compiled := by
  intro entry hentry
  unfold Standard.Recipe.addTo at hentry
  split at hentry
  · next p hcompiled =>
    rcases Entries.mem_put hentry with rfl | hentry
    · rw [Template.source_of_compile hcompiled, hcompiled]
    · exact h entry hentry
  · exact h entry hentry

theorem Compiled.foldl (h : set.Compiled) (recipes : List Standard.Recipe) :
    (recipes.foldl Standard.Recipe.addTo set).Compiled := by
  induction recipes generalizing set with
  | nil => exact h
  | cons r recipes ih => exact ih (h.addTo r)

theorem Compiled.setCodes (h : set.Compiled) (codes : Entries String) :
    Compiled { set with codes := codes } := by
  intro entry hentry
  exact h entry hentry

theorem compiled_standard : Standard.templates.Compiled := by
  have hempty : empty.Compiled := by
    intro entry hentry
    cases hentry
  apply Compiled.setCodes
  exact hempty.foldl Standard.recipes

/-- The standard set is valid on every platform, since its patterns name no characters. -/
theorem valid_standard (platform : Platform) : Standard.templates.Valid platform where
  toWellFormed := wellFormed_standard
  templates := by
    have hshape : ∀ entry ∈ Standard.templates.templates,
        entry.2.name ≠ "" ∧ entry.2.pattern.groups = requiredGroups := by
      rw [Standard.templates_eq]
      decide
    intro entry hentry
    obtain ⟨hname, hgroups⟩ := hshape entry hentry
    exact ⟨wellFormed_standard.own entry hentry, hname,
      Pattern.compile_of_bare _ (compiled_standard entry hentry), hgroups⟩
  normal := by
    have hnormal : ∀ entry ∈ Standard.codes,
        Code.normalize? (.string entry.1) = some entry.1 := by
      decide +kernel
    rw [Standard.templates_eq]
    intro entry hentry
    exact ⟨.string entry.1, hnormal entry hentry⟩

end TemplateSet

end TypeMismatch
