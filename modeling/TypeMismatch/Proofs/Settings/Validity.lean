import TypeMismatch.Proofs.Settings.Layer
import TypeMismatch.Proofs.Template.Validity

/-!
# Valid settings

Whatever overrides are loaded, in any number of layers, some of which may be refused, the settings
stay valid: lines are long enough, and the set of templates is valid (`TemplateSet.Valid`).  What a
layer brings keeps this (`Valid.on`), so one load does (`Valid.load`), and so does a run of loads
(`Valid.loadLayers`).
-/

namespace TypeMismatch.Settings

variable {platform : Platform} {base s c : Settings} {members : Entries Json} {layer : Layer}
  {overrides : Json}

/-- Loads layers one after another; one that fails leaves the settings as they are. -/
def loadLayers (platform : Platform) (s : Settings) : List Json → Settings
  | [] => s
  | overrides :: rest =>
    match s.load platform overrides with
    | .ok next => next.loadLayers platform rest
    | .error _ => s.loadLayers platform rest

structure Valid (platform : Platform) (s : Settings) : Prop where
  lineLimit : minLineLimit ≤ s.lineLimit
  templates : s.templates.Valid platform

/-! ## What a layer brings -/

theorem minLineLimit_le_of_readLineLimit {old new : Nat} {given : Option Json}
    (h : readLineLimit old given = .ok new) (hold : minLineLimit ≤ old) : minLineLimit ≤ new := by
  unfold readLineLimit at h
  split at h
  · cases h
    exact hold
  · split at h
    · next hlimit =>
      cases h
      omega
    · split at h <;> cases h
  · cases h

theorem valid_of_describedTemplate {name : String} {value : Json} {t : Template}
    (h : describedTemplate platform name value = .ok t) : t.Valid platform := by
  unfold describedTemplate at h
  split at h <;> exact Template.valid_of_ofJson h

theorem valid_of_readTemplates {value : Json} {templates : Entries Template}
    (h : readTemplates platform value = .ok templates) :
    ∀ entry ∈ templates, TemplateSet.ValidEntry platform entry := by
  unfold readTemplates at h
  split at h
  · refine forall_of_readAll h ?_
    intro entry more hmore
    obtain ⟨t, ht, hmore⟩ := bind_eq_ok_iff.1 hmore
    cases hmore
    rw [List.forall_mem_singleton]
    exact ⟨rfl, valid_of_describedTemplate ht⟩
  · cases h

theorem normal_of_readCodes {given : Option Json} {codes : Entries String}
    (h : readCodes given = some codes) :
    ∀ entry ∈ codes, Code.IsNormal entry.1 := by
  unfold readCodes at h
  split at h
  · cases h
    nofun
  · obtain ⟨-, h⟩ := Option.ite_none_right_eq_some.1 h
    cases h
    exact TemplateSet.normal_of_pairs
  · cases h

/-! ## Loads -/

theorem Valid.on (hbase : base.Valid platform) (hsaid : Says platform members layer)
    (hfits : layer.Fits base) : (layer.on base).Valid platform := by
  have htemplates : ∀ entry ∈ layer.templates, TemplateSet.ValidEntry platform entry :=
    forall_of_readAll hsaid.templates fun _ _ => valid_of_readTemplates
  constructor
  · exact minLineLimit_le_of_readLineLimit (hsaid.values.lineLimit base.lineLimit) hbase.lineLimit
  · exact hbase.templates.putAll htemplates (normal_of_readCodes hsaid.codes) hfits

/-- A load keeps settings valid. -/
theorem Valid.load (hbase : base.Valid platform) (h : base.load platform overrides = .ok c) :
    c.Valid platform := by
  rcases load_eq_ok_iff.1 h with ⟨-, rfl⟩ | ⟨members, -, layer, hsaid, hfits, rfl⟩
  · exact hbase
  · exact hbase.on hsaid hfits

theorem Valid.loadLayers (hbase : base.Valid platform) (layers : List Json) :
    (base.loadLayers platform layers).Valid platform := by
  induction layers generalizing base with
  | nil => exact hbase
  | cons overrides rest ih =>
    rw [Settings.loadLayers]
    split
    · next hload => exact ih (hbase.load hload)
    · exact ih hbase

theorem valid_standard (platform : Platform) : standard.Valid platform where
  lineLimit := by decide
  templates := TemplateSet.valid_standard platform

/-- **All settings that can be loaded are valid.**  Lines have room for the least number of
characters; names and codes occur once; each template stands under its own name, which is not empty,
and has the pattern that its text compiles to, with two groups, beside its two labels; each code is
not empty and, with the letters in front of it, asks for the template that it is mapped to. -/
theorem loadLayers_standard_valid (platform : Platform) (layers : List Json) :
    let s := standard.loadLayers platform layers
    20 ≤ s.lineLimit ∧
    (s.templates.names.Nodup ∧ (Entries.names s.templates.codes).Nodup) ∧
    (∀ name t, (name, t) ∈ s.templates.templates →
      t.name = name ∧ name ≠ "" ∧
        Pattern.compile platform.characterNamed? t.pattern.source = .ok t.pattern ∧
        t.pattern.groups = 2) ∧
    ∀ key name, (key, name) ∈ s.templates.codes →
      key ≠ "" ∧ ∃ t, s.templates.get? name = some t ∧
        s.templates.forCode? (.string ("TS" ++ key)) = some t := by
  intro s
  have hvalid : s.Valid platform := (valid_standard platform).loadLayers layers
  refine ⟨hvalid.lineLimit, ⟨hvalid.templates.names, hvalid.templates.codes⟩, ?_, ?_⟩
  · intro name t ht
    have hentry := hvalid.templates.templates (name, t) ht
    obtain rfl : t.name = name := hentry.own
    exact ⟨rfl, hentry.valid.named, hentry.valid.compiled, hentry.valid.groups⟩
  · intro key name hcode
    exact ⟨(hvalid.templates.normal (key, name) hcode).ne_empty,
      hvalid.templates.forCode?_lettered hcode⟩

/-- A code whose normal form has letters and a blank of its own is looked up as well as any other,
after a layer that is refused and one that puts another template in its template's place. -/
theorem loadLayers_standard_valid_of_lettered_code :
    let layers : List Json :=
      [.object [("codes", .object [("TS TS7", .string "property")])],
        .object [("max_line_length", .int 19)],
        .object [("templates", .object [("property", pairJson)])]]
    let s := standard.loadLayers Platform.bare layers
    (" TS7", "property") ∈ s.templates.codes ∧
      ∃ t, s.templates.get? "property" = some t ∧ t.labels = ⟨"L:", "R:"⟩ ∧
        t.pattern.groups = 2 ∧ s.templates.forCode? (.string "TS TS7") = some t := by
  intro layers
  have hfacts : (" TS7", "property") ∈ (standard.loadLayers Platform.bare layers).templates.codes ∧
      ((standard.loadLayers Platform.bare layers).templates.get? "property").map Template.labels =
        some ⟨"L:", "R:"⟩ := by
    rw [standard_eq]
    decide +kernel
  have hvalid := loadLayers_standard_valid Platform.bare layers
  have hspelling : "TS" ++ " TS7" = "TS TS7" := by decide
  generalize standard.loadLayers Platform.bare layers = s at hfacts hvalid ⊢
  obtain ⟨hcode, hlabels⟩ := hfacts
  obtain ⟨-, -, htemplates, hcodes⟩ := hvalid
  obtain ⟨-, t, ht, hfound⟩ := hcodes " TS7" "property" hcode
  obtain ⟨-, -, -, hgroups⟩ := htemplates "property" t (Entries.mem_of_get? ht)
  rw [ht, Option.map_some, Option.some_inj] at hlabels
  rw [hspelling] at hfound
  exact ⟨hcode, t, ht, hlabels, hgroups, hfound⟩

end TypeMismatch.Settings
