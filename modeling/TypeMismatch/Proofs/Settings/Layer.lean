import TypeMismatch.Proofs.Template.History
import TypeMismatch.Settings.Merge

/-!
# What overrides say

Overrides are read apart from any settings, as a `Layer`: new values for the plain settings, and
groups, templates and codes to be put on top of those that are there.  Loading succeeds exactly when
a layer can be read and each of its codes is given the name of a template that is there then; the
outcome is the layer on top of the settings (`load_eq_ok_iff`).  What is said about loading twice, in
another order or in several goes is said about layers, and the way in which members, codes and values
are gone through is no longer looked at.
-/

namespace TypeMismatch

/-- New values for the plain settings. -/
structure Values where
  indent : Option String
  lineLimit : Option Nat
  showIcons : Option Bool
  autoOpenFloat : Option Bool
  markDifferences : Option Bool
  showPreview : Option Bool

/-- What overrides say, whatever the settings are that they are put on. -/
structure Layer where
  values : Values
  groups : Entries String
  templates : Entries Template
  codes : Entries String

def Values.on (values : Values) (s : Settings) : Settings :=
  { s with
    indent := values.indent.getD s.indent
    lineLimit := values.lineLimit.getD s.lineLimit
    showIcons := values.showIcons.getD s.showIcons
    autoOpenFloat := values.autoOpenFloat.getD s.autoOpenFloat
    markDifferences := values.markDifferences.getD s.markDifferences
    showPreview := values.showPreview.getD s.showPreview }

namespace Layer

/-- The settings with the layer on top. -/
def on (layer : Layer) (s : Settings) : Settings :=
  { layer.values.on s with
    highlightGroups := Entries.putAll s.highlightGroups layer.groups
    templates := s.templates.putAll layer.templates layer.codes }

/-- The names that the codes are given are those of templates, old or new. -/
def Fits (layer : Layer) (s : Settings) : Prop :=
  ∀ pair ∈ layer.codes, pair.2 ∈ s.templates.names ∨ pair.2 ∈ Entries.names layer.templates

end Layer

/-! ## Reading many values -/

section ReadAll

variable {α β σ : Type} {read : β → Except Failure (Entries α)} {x : β} {xs ys : List β}
  {all : Entries α}

/-- The entries of all values together. -/
def readAll (read : β → Except Failure (Entries α)) : List β → Except Failure (Entries α)
  | [] => .ok []
  | x :: xs => do return (← read x) ++ (← readAll read xs)

theorem readAll_cons_eq_ok_iff :
    readAll read (x :: xs) = .ok all ↔
      ∃ first rest, read x = .ok first ∧ readAll read xs = .ok rest ∧ all = first ++ rest := by
  simp only [readAll, bind_eq_ok_iff]
  constructor
  · rintro ⟨first, hfirst, rest, hrest, h⟩
    exact ⟨first, rest, hfirst, hrest, (Except.ok.inj h).symm⟩
  · rintro ⟨first, rest, hfirst, hrest, rfl⟩
    exact ⟨first, hfirst, rest, hrest, rfl⟩

theorem readAll_singleton (x : β) : readAll read [x] = read x := by
  rw [readAll]
  cases read x with
  | error failure => rfl
  | ok entries => exact congrArg Except.ok (List.append_nil entries)

theorem readAll_append_eq_ok_iff :
    readAll read (xs ++ ys) = .ok all ↔
      ∃ first second, readAll read xs = .ok first ∧ readAll read ys = .ok second ∧
        all = first ++ second := by
  induction xs generalizing all with
  | nil =>
    constructor
    · intro h
      exact ⟨[], all, rfl, h, rfl⟩
    · rintro ⟨first, second, hfirst, hsecond, rfl⟩
      rw [← Except.ok.inj hfirst]
      exact hsecond
  | cons x xs ih =>
    simp only [List.cons_append, readAll_cons_eq_ok_iff, ih]
    constructor
    · rintro ⟨a, _, ha, ⟨b, c, hb, hc, rfl⟩, rfl⟩
      exact ⟨a ++ b, c, ⟨a, b, ha, hb, rfl⟩, hc, (List.append_assoc a b c).symm⟩
    · rintro ⟨_, c, ⟨a, b, ha, hb, rfl⟩, hc, rfl⟩
      exact ⟨a, b ++ c, ha, ⟨b, c, hb, hc, rfl⟩, List.append_assoc a b c⟩

theorem forall_of_readAll {P : String × α → Prop} (h : readAll read xs = .ok all)
    (hread : ∀ x more, read x = .ok more → ∀ entry ∈ more, P entry) : ∀ entry ∈ all, P entry := by
  induction xs generalizing all with
  | nil =>
    cases h
    nofun
  | cons x xs ih =>
    obtain ⟨first, rest, hfirst, hrest, rfl⟩ := readAll_cons_eq_ok_iff.1 h
    rw [List.forall_mem_append]
    exact ⟨hread x first hfirst, ih hrest⟩

/-- A loop that puts on what it reads could as well read all of it first. -/
theorem foldlM_eq_ok_iff_readAll {step : σ → β → Except Failure σ} (put : σ → Entries α → σ)
    (hnil : ∀ s, put s [] = s) (happend : ∀ s a b, put (put s a) b = put s (a ++ b))
    (hstep : ∀ s next x, step s x = .ok next ↔ ∃ more, read x = .ok more ∧ next = put s more)
    {s next : σ} :
    xs.foldlM step s = .ok next ↔ ∃ more, readAll read xs = .ok more ∧ next = put s more := by
  induction xs generalizing s with
  | nil =>
    constructor
    · rintro ⟨⟩
      exact ⟨[], rfl, (hnil _).symm⟩
    · rintro ⟨more, hmore, rfl⟩
      rw [← Except.ok.inj hmore, hnil]
      rfl
  | cons x xs ih =>
    simp only [List.foldlM_cons, bind_eq_ok_iff, hstep, ih, readAll_cons_eq_ok_iff]
    constructor
    · rintro ⟨_, ⟨first, hfirst, rfl⟩, rest, hrest, rfl⟩
      exact ⟨first ++ rest, ⟨first, rest, hfirst, hrest, rfl⟩, happend s first rest⟩
    · rintro ⟨_, ⟨first, rest, hfirst, hrest, rfl⟩, rfl⟩
      exact ⟨_, ⟨first, hfirst, rfl⟩, rest, hrest, (happend s first rest).symm⟩

end ReadAll

namespace Settings

variable {platform : Platform} {s base next c : Settings} {members : Entries Json}
  {overrides : Json}

/-! ## Plain values -/

/-- The reader takes the value that is given, if any, whatever the old one was. -/
def Reads {α : Type} (read : α → Option Json → Except Failure α) (given : Option Json)
    (value : Option α) : Prop :=
  ∀ old, read old given = .ok (value.getD old)

/-- A reader of values that take the place of the old ones. -/
structure Replacing {α : Type} (read : α → Option Json → Except Failure α) : Prop where
  kept : ∀ old, read old none = .ok old
  given : ∀ old other value, read old (some value) = read other (some value)

theorem replacing_readIndent : Replacing readIndent where
  kept _ := rfl
  given _ _ value := by cases value <;> rfl

theorem replacing_readLineLimit : Replacing readLineLimit where
  kept _ := rfl
  given _ _ value := by cases value <;> rfl

theorem replacing_readSwitch (setting : Setting) : Replacing (readSwitch setting) where
  kept _ := rfl
  given _ _ value := by cases value <;> rfl

theorem Replacing.eq_ok_iff {α : Type} {read : α → Option Json → Except Failure α}
    (hread : Replacing read) {old new : α} {given : Option Json} :
    read old given = .ok new ↔ ∃ value, Reads read given value ∧ value.getD old = new := by
  constructor
  · intro h
    cases given with
    | none =>
      rw [hread.kept] at h
      exact ⟨none, hread.kept, Except.ok.inj h⟩
    | some value =>
      refine ⟨some new, ?_, rfl⟩
      intro other
      rw [hread.given other old, h]
      rfl
  · rintro ⟨value, hvalue, rfl⟩
    exact hvalue old

/-- The plain settings are given these values. -/
structure ReadsValues (given : Setting → Option Json) (values : Values) : Prop where
  indent : Reads readIndent (given .indent) values.indent
  lineLimit : Reads readLineLimit (given .lineLimit) values.lineLimit
  showIcons : Reads (readSwitch .showIcons) (given .showIcons) values.showIcons
  autoOpenFloat : Reads (readSwitch .autoOpenFloat) (given .autoOpenFloat) values.autoOpenFloat
  markDifferences :
    Reads (readSwitch .markDifferences) (given .markDifferences) values.markDifferences
  showPreview : Reads (readSwitch .showPreview) (given .showPreview) values.showPreview

theorem mergeValues_eq_ok_iff :
    s.mergeValues members = .ok next ↔
      ∃ values, ReadsValues (given? members) values ∧ next = values.on s := by
  simp only [mergeValues, bind_eq_ok_iff, replacing_readIndent.eq_ok_iff,
    replacing_readLineLimit.eq_ok_iff, (replacing_readSwitch _).eq_ok_iff]
  constructor
  · rintro ⟨_, ⟨indent, hindent, rfl⟩, _, ⟨lineLimit, hlineLimit, rfl⟩, _, ⟨icons, hicons, rfl⟩,
      _, ⟨float, hfloat, rfl⟩, _, ⟨mark, hmark, rfl⟩, _, ⟨preview, hpreview, rfl⟩, h⟩
    exact ⟨⟨indent, lineLimit, icons, float, mark, preview⟩,
      ⟨hindent, hlineLimit, hicons, hfloat, hmark, hpreview⟩, (Except.ok.inj h).symm⟩
  · rintro ⟨values, h, rfl⟩
    exact ⟨_, ⟨_, h.indent, rfl⟩, _, ⟨_, h.lineLimit, rfl⟩, _, ⟨_, h.showIcons, rfl⟩,
      _, ⟨_, h.autoOpenFloat, rfl⟩, _, ⟨_, h.markDifferences, rfl⟩, _, ⟨_, h.showPreview, rfl⟩,
      rfl⟩

/-! ## Templates -/

/-- The template that a value describes. -/
def describedTemplate (platform : Platform) (name : String) : Json → Except Failure Template
  | .object members =>
    Template.ofJson platform (.string name) (Json.member members "pattern")
      (Json.member members "labels")
  | _ => Template.ofJson platform (.string name) .null .null

def readTemplate (platform : Platform) (entry : String × Json) :
    Except Failure (Entries Template) := do
  let t ← describedTemplate platform entry.1 entry.2
  return [(t.name, t)]

def readTemplates (platform : Platform) : Json → Except Failure (Entries Template)
  | .object entries => readAll (readTemplate platform) entries
  | value => .error (Setting.templates.refuse (.templatesKind value.kind))

variable {set nextSet : TemplateSet}

theorem mergeTemplate_eq_ok_iff (set nextSet : TemplateSet) (entry : String × Json) :
    mergeTemplate platform set entry = .ok nextSet ↔
      ∃ more, readTemplate platform entry = .ok more ∧ nextSet = set.putAll more [] := by
  obtain ⟨name, value⟩ := entry
  have hmerge : mergeTemplate platform set (name, value) =
      describedTemplate platform name value >>= fun t => pure (set.add t) := by
    cases value <;> rfl
  simp only [hmerge, readTemplate, bind_eq_ok_iff]
  constructor
  · rintro ⟨t, ht, h⟩
    exact ⟨[(t.name, t)], ⟨t, ht, rfl⟩, (Except.ok.inj h).symm⟩
  · rintro ⟨_, ⟨t, ht, hmore⟩, rfl⟩
    rw [← Except.ok.inj hmore]
    exact ⟨t, ht, rfl⟩

theorem putAll_templates_append (set : TemplateSet) (a b : Entries Template) :
    (set.putAll a []).putAll b [] = set.putAll (a ++ b) [] :=
  set.putAll_putAll a b [] []

theorem mergeTemplates_eq_ok_iff {value : Json} :
    mergeTemplates platform set value = .ok nextSet ↔
      ∃ more, readTemplates platform value = .ok more ∧ nextSet = set.putAll more [] := by
  cases value with
  | object entries =>
    rw [mergeTemplates, readTemplates]
    exact foldlM_eq_ok_iff_readAll (fun (set : TemplateSet) more => set.putAll more [])
      (fun _ => rfl) putAll_templates_append mergeTemplate_eq_ok_iff
  | _ =>
    constructor
    · rintro ⟨⟩
    · rintro ⟨more, ⟨⟩, -⟩

/-! ## Members -/

/-- All groups that the members give. -/
def groupsOf (members : Entries Json) : Except Failure (Entries String) :=
  readAll readGroups (Entries.getAll Setting.highlightGroups.name members)

/-- All templates that the members describe. -/
def templatesOf (platform : Platform) (members : Entries Json) :
    Except Failure (Entries Template) :=
  readAll (readTemplates platform) (Entries.getAll Setting.templates.name members)

/-- The settings with some groups and templates on top. -/
def putEntries (s : Settings) (groups : Entries String) (templates : Entries Template) : Settings :=
  { s with
    highlightGroups := Entries.putAll s.highlightGroups groups
    templates := s.templates.putAll templates [] }

theorem putEntries_putEntries (s : Settings) (gs gs' : Entries String)
    (ts ts' : Entries Template) :
    (s.putEntries gs ts).putEntries gs' ts' = s.putEntries (gs ++ gs') (ts ++ ts') := by
  simp only [putEntries, Entries.putAll_append, putAll_templates_append]

theorem ofName?_eq_some_iff {name : String} {setting : Setting} :
    Setting.ofName? name = some setting ↔ name = setting.name := by
  constructor
  · intro h
    have hname := List.find?_some h
    exact (beq_iff_eq.1 hname).symm
  · rintro rfl
    cases setting <;> rfl

/-- What one member does. -/
theorem mergeMember_eq_ok_iff {member : String × Json} :
    s.mergeMember platform member = .ok next ↔
      Setting.ofName? member.1 ≠ none ∧
        ∃ groups templates, groupsOf [member] = .ok groups ∧
          templatesOf platform [member] = .ok templates ∧
          next = s.putEntries groups templates := by
  obtain ⟨name, value⟩ := member
  unfold mergeMember
  cases hname : Setting.ofName? name with
  | none =>
    constructor
    · rintro ⟨⟩
    · rintro ⟨h, -⟩
      exact absurd rfl h
  | some setting =>
    rw [ofName?_eq_some_iff] at hname
    subst hname
    rw [and_iff_right (Option.some_ne_none setting)]
    -- the other settings have their turn when all members are gone through
    cases setting with
    | highlightGroups =>
      have hgroups : groupsOf [(Setting.highlightGroups.name, value)] = readGroups value :=
        readAll_singleton value
      simp only [bind_eq_ok_iff, hgroups]
      constructor
      · rintro ⟨groups, hread, h⟩
        exact ⟨groups, [], hread, rfl, (Except.ok.inj h).symm⟩
      · rintro ⟨groups, templates, hread, htemplates, rfl⟩
        cases htemplates
        exact ⟨groups, hread, rfl⟩
    | templates =>
      have htemplates : templatesOf platform [(Setting.templates.name, value)] =
          readTemplates platform value := readAll_singleton value
      simp only [bind_eq_ok_iff, mergeTemplates_eq_ok_iff, htemplates]
      constructor
      · rintro ⟨_, ⟨templates, hread, rfl⟩, h⟩
        exact ⟨[], templates, rfl, hread, (Except.ok.inj h).symm⟩
      · rintro ⟨groups, templates, hgroups, hread, rfl⟩
        cases hgroups
        exact ⟨_, ⟨templates, hread, rfl⟩, rfl⟩
    | _ =>
      constructor
      · rintro ⟨⟩
        exact ⟨[], [], rfl, rfl, rfl⟩
      · rintro ⟨groups, templates, hgroups, htemplates, rfl⟩
        cases hgroups
        cases htemplates
        rfl

theorem groupsOf_append_eq_ok_iff {more : Entries Json} {groups : Entries String} :
    groupsOf (members ++ more) = .ok groups ↔
      ∃ first second, groupsOf members = .ok first ∧ groupsOf more = .ok second ∧
        groups = first ++ second := by
  rw [groupsOf, Entries.getAll_append, readAll_append_eq_ok_iff]
  rfl

theorem templatesOf_append_eq_ok_iff {more : Entries Json} {templates : Entries Template} :
    templatesOf platform (members ++ more) = .ok templates ↔
      ∃ first second, templatesOf platform members = .ok first ∧
        templatesOf platform more = .ok second ∧ templates = first ++ second := by
  rw [templatesOf, Entries.getAll_append, readAll_append_eq_ok_iff]
  rfl

/-- What all members do, one after another. -/
theorem mergeMembers_eq_ok_iff :
    members.foldlM (mergeMember platform) s = .ok next ↔
      (∀ name ∈ Entries.names members, Setting.ofName? name ≠ none) ∧
        ∃ groups templates, groupsOf members = .ok groups ∧
          templatesOf platform members = .ok templates ∧
          next = s.putEntries groups templates := by
  induction members generalizing s with
  | nil =>
    constructor
    · rintro ⟨⟩
      exact ⟨nofun, [], [], rfl, rfl, rfl⟩
    · rintro ⟨-, groups, templates, hgroups, htemplates, rfl⟩
      cases hgroups
      cases htemplates
      rfl
  | cons member members ih =>
    have hcons : member :: members = [member] ++ members := rfl
    rw [List.foldlM_cons, bind_eq_ok_iff, Entries.names_cons, List.forall_mem_cons, hcons]
    simp only [mergeMember_eq_ok_iff, ih, groupsOf_append_eq_ok_iff, templatesOf_append_eq_ok_iff]
    constructor
    · rintro ⟨_, ⟨hknown, gs, ts, hgs, hts, rfl⟩, hrest, gs', ts', hgs', hts', rfl⟩
      exact ⟨⟨hknown, hrest⟩, gs ++ gs', ts ++ ts', ⟨gs, gs', hgs, hgs', rfl⟩,
        ⟨ts, ts', hts, hts', rfl⟩, s.putEntries_putEntries gs gs' ts ts'⟩
    · rintro ⟨⟨hknown, hrest⟩, _, _, ⟨gs, gs', hgs, hgs', rfl⟩, ⟨ts, ts', hts, hts', rfl⟩, rfl⟩
      exact ⟨_, ⟨hknown, gs, ts, hgs, hts, rfl⟩, hrest, gs', ts', hgs', hts',
        (s.putEntries_putEntries gs gs' ts ts').symm⟩

/-! ## Codes -/

/-- The codes that a value gives, if every one of them has a normal form and a name. -/
def readCodes : Option Json → Option (Entries String)
  | none => some []
  | some (.object members) =>
    let codes := TemplateSet.codesOfMembers members
    if ∀ entry ∈ codes, (TemplateSet.pair? entry).isSome then some (TemplateSet.pairs codes)
    else none
  | some _ => none

theorem withCodes_eq_ok_iff_pairs {codes : List (Json × Json)} :
    set.withCodes codes = .ok nextSet ↔
      (∀ entry ∈ codes, (TemplateSet.pair? entry).isSome) ∧
        (∀ pair ∈ TemplateSet.pairs codes, pair.2 ∈ set.names) ∧
          nextSet = set.putAll [] (TemplateSet.pairs codes) := by
  rw [TemplateSet.withCodes_eq_ok_iff]
  constructor
  · rintro ⟨hall, rfl⟩
    refine ⟨?_, ?_, rfl⟩
    · intro entry hentry
      obtain ⟨pair, hpair, -⟩ := hall entry hentry
      rw [hpair, Option.isSome_some]
    · intro pair hpair
      obtain ⟨entry, hentry, hsome⟩ := List.mem_filterMap.1 hpair
      obtain ⟨other, hother, hname⟩ := hall entry hentry
      rw [hsome, Option.some_inj] at hother
      rwa [hother]
  · rintro ⟨hcoded, hnamed, rfl⟩
    refine ⟨?_, rfl⟩
    intro entry hentry
    obtain ⟨pair, hpair⟩ := Option.isSome_iff_exists.1 (hcoded entry hentry)
    exact ⟨pair, hpair, hnamed pair (List.mem_filterMap.2 ⟨entry, hentry, hpair⟩)⟩

theorem mergeCodes_eq_ok_iff {given : Option Json} :
    s.mergeCodes given = .ok next ↔
      ∃ codes, readCodes given = some codes ∧ (∀ pair ∈ codes, pair.2 ∈ s.templates.names) ∧
        next = { s with templates := s.templates.putAll [] codes } := by
  cases given with
  | none =>
    constructor
    · rintro ⟨⟩
      exact ⟨[], rfl, nofun, rfl⟩
    · rintro ⟨codes, hcodes, -, rfl⟩
      cases hcodes
      rfl
  | some value =>
    cases value with
    | object members =>
      simp only [mergeCodes, readCodes, bind_eq_ok_iff, withCodes_eq_ok_iff_pairs]
      constructor
      · rintro ⟨_, ⟨hcoded, hnamed, rfl⟩, h⟩
        exact ⟨_, if_pos hcoded, hnamed, (Except.ok.inj h).symm⟩
      · rintro ⟨codes, hcodes, hnamed, rfl⟩
        rw [Option.ite_none_right_eq_some] at hcodes
        obtain ⟨hcoded, hpairs⟩ := hcodes
        cases hpairs
        exact ⟨_, ⟨hcoded, hnamed, rfl⟩, rfl⟩
    | _ =>
      constructor
      · rintro ⟨⟩
      · rintro ⟨codes, ⟨⟩, -⟩

/-! ## Loading -/

/-- The members of an object say what is in the layer. -/
structure Says (platform : Platform) (members : Entries Json) (layer : Layer) : Prop where
  known : ∀ name ∈ Entries.names members, Setting.ofName? name ≠ none
  values : ReadsValues (given? members) layer.values
  groups : groupsOf members = .ok layer.groups
  templates : templatesOf platform members = .ok layer.templates
  codes : readCodes (given? members .codes) = some layer.codes

theorem merge_eq_ok_iff :
    base.merge platform members = .ok c ↔
      ∃ layer, Says platform members layer ∧ layer.Fits base ∧ c = layer.on base := by
  simp only [merge, bind_eq_ok_iff, mergeMembers_eq_ok_iff, mergeCodes_eq_ok_iff,
    mergeValues_eq_ok_iff]
  constructor
  · rintro ⟨_, ⟨hknown, groups, templates, hgroups, htemplates, rfl⟩, _,
      ⟨codes, hcodes, hfits, rfl⟩, values, hvalues, rfl⟩
    refine ⟨⟨values, groups, templates, codes⟩, ⟨hknown, hvalues, hgroups, htemplates, hcodes⟩,
      ?_, ?_⟩
    -- codes are looked at when the templates of the layer are there
    · intro pair hpair
      exact Entries.mem_names_putAll_iff.1 (hfits pair hpair)
    · rfl
  · rintro ⟨layer, h, hfits, rfl⟩
    refine ⟨_, ⟨h.known, _, _, h.groups, h.templates, rfl⟩, _, ⟨_, h.codes, ?_, rfl⟩, _, h.values,
      rfl⟩
    intro pair hpair
    exact Entries.mem_names_putAll_iff.2 (hfits pair hpair)

theorem load_of_vacant (platform : Platform) (base : Settings) (h : overrides.isVacant = true) :
    base.load platform overrides = .ok base := by
  have hchange : base.change? platform overrides = .ok none := by
    unfold change?
    rw [if_pos h]
  rw [load, hchange]
  rfl

theorem load_object (base : Settings) (members : Entries Json) :
    base.load platform (.object members) = base.merge platform members := by
  cases members with
  | nil => rfl
  | cons member members =>
    show (base.merge platform (member :: members) >>= fun s => pure (some s)) >>= _ = _
    cases base.merge platform (member :: members) <;> rfl

theorem load_object_eq_ok_iff :
    base.load platform (.object members) = .ok c ↔
      ∃ layer, Says platform members layer ∧ layer.Fits base ∧ c = layer.on base := by
  rw [load_object, merge_eq_ok_iff]

/-- **Loading reads a layer and puts it on top.**  Only overrides that are vacant say nothing without
being an object. -/
theorem load_eq_ok_iff :
    base.load platform overrides = .ok c ↔
      (overrides.isVacant = true ∧ c = base) ∨
        ∃ members, overrides = .object members ∧
          ∃ layer, Says platform members layer ∧ layer.Fits base ∧ c = layer.on base := by
  constructor
  · intro h
    by_cases hvacant : overrides.isVacant = true
    · rw [load_of_vacant platform base hvacant] at h
      exact .inl ⟨hvacant, (Except.ok.inj h).symm⟩
    · cases overrides with
      | object members => exact .inr ⟨members, rfl, load_object_eq_ok_iff.1 h⟩
      | _ =>
        unfold load change? at h
        rw [if_neg hvacant] at h
        cases h
  · rintro (⟨hvacant, rfl⟩ | ⟨members, rfl, h⟩)
    · exact load_of_vacant platform c hvacant
    · exact load_object_eq_ok_iff.2 h

/-- The standard settings, with their patterns as they are read. -/
theorem standard_eq :
    standard =
      { standard with
        templates :=
          ⟨[("overload", Standard.overload), ("parameter", Standard.parameter),
            ("missing_props", Standard.missingProps), ("property", Standard.property),
            ("assignability", Standard.assignability),
            ("return_mismatch", Standard.returnMismatch)], Standard.codes⟩ } := by
  rw [← Standard.templates_eq]
  rfl

/-- A template as overrides describe it. -/
def pairJson : Json :=
  .object [("pattern", .string "L (.+) R (.+)"), ("labels", .array [.string "L:", .string "R:"])]

end Settings

end TypeMismatch
