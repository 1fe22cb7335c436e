import TypeMismatch.Proofs.Settings.Layer

/-!
# Layers on top of one another

A layer that is put on again changes nothing (`Layer.on_on`), and two layers one after the other are
the same as the one made of both (`Layer.on_under`).  So the order of the members of overrides and
the way in which they are spread over several loads matter only for what is refused: codes may name
the templates that come with them, but not those that come later.
-/

namespace TypeMismatch

/-- The values of both; those of the second one count where both give one. -/
def Values.under (first second : Values) : Values where
  indent := second.indent.or first.indent
  lineLimit := second.lineLimit.or first.lineLimit
  showIcons := second.showIcons.or first.showIcons
  autoOpenFloat := second.autoOpenFloat.or first.autoOpenFloat
  markDifferences := second.markDifferences.or first.markDifferences
  showPreview := second.showPreview.or first.showPreview

namespace Layer

variable {layer first second : Layer} {s : Settings} {name : String}

/-- The first layer with the second one on top. -/
def under (first second : Layer) : Layer where
  values := first.values.under second.values
  groups := first.groups ++ second.groups
  templates := first.templates ++ second.templates
  codes := first.codes ++ second.codes

theorem on_under (first second : Layer) (s : Settings) :
    (first.under second).on s = second.on (first.on s) := by
  simp only [on, under, Values.on, Values.under, Option.getD_or, Entries.putAll_append,
    TemplateSet.putAll_putAll]

theorem on_on (layer : Layer) (s : Settings) : layer.on (layer.on s) = layer.on s := by
  simp only [on, Values.on, TemplateSet.putAll, Entries.putAll_again, ← Option.getD_or,
    Option.or_self]

theorem mem_names_on_iff :
    name ∈ (layer.on s).templates.names ↔
      name ∈ s.templates.names ∨ name ∈ Entries.names layer.templates :=
  Entries.mem_names_putAll_iff

theorem Fits.on (h : layer.Fits s) : layer.Fits (layer.on s) := by
  intro pair hpair
  exact .inl (mem_names_on_iff.2 (h pair hpair))

theorem Fits.under (hfirst : first.Fits s) (hsecond : second.Fits (first.on s)) :
    (first.under second).Fits s := by
  intro pair hpair
  show _ ∨ pair.2 ∈ Entries.names (first.templates ++ second.templates)
  rw [Entries.names_append, List.mem_append]
  rcases List.mem_append.1 hpair with hpair | hpair
  · exact (hfirst pair hpair).imp_right .inl
  · rcases hsecond pair hpair with hname | hname
    · exact (mem_names_on_iff.1 hname).imp_right .inl
    · exact .inr (.inr hname)

/-- The layers fit one after the other if the codes of the first one need no template of the
second. -/
theorem Fits.of_under (h : (first.under second).Fits s)
    (hone : first.codes = [] ∨ second.templates = []) :
    first.Fits s ∧ second.Fits (first.on s) := by
  have hnames (pair : String × String) (hpair : pair ∈ first.codes ++ second.codes) :
      pair.2 ∈ s.templates.names ∨
        pair.2 ∈ Entries.names first.templates ∨ pair.2 ∈ Entries.names second.templates := by
    have hfits := h pair hpair
    rwa [Layer.under, Entries.names_append, List.mem_append] at hfits
  constructor
  · intro pair hpair
    rcases hone with hcodes | htemplates
    · rw [hcodes] at hpair
      cases hpair
    · simpa [htemplates] using hnames pair (List.mem_append_left _ hpair)
  · intro pair hpair
    rw [mem_names_on_iff, or_assoc]
    exact hnames pair (List.mem_append_right _ hpair)

end Layer

namespace Settings

variable {platform : Platform} {base c : Settings} {members other first second : Entries Json}
  {layer : Layer} {overrides : Json}

/-! ## The order of the members -/

theorem Says.of_perm (h : Says platform members layer) (hnodup : (Entries.names members).Nodup)
    (hperm : members.Perm other) : Says platform other layer := by
  have hgiven : given? other = given? members := by
    funext setting
    exact Entries.get?_of_perm hnodup hperm setting.name
  constructor
  · intro name hname
    exact h.known name ((Entries.names_perm hperm).mem_iff.2 hname)
  · rw [hgiven]
    exact h.values
  · rw [groupsOf, Entries.getAll_of_perm hnodup hperm]
    exact h.groups
  · rw [templatesOf, Entries.getAll_of_perm hnodup hperm]
    exact h.templates
  · rw [hgiven]
    exact h.codes

/-- **The order of the members decides only what is reported.**  In another order the same overrides
are loaded with the same outcome, or are refused as well. -/
theorem load_eq_ok_iff_of_perm (hnodup : (Entries.names members).Nodup)
    (hperm : members.Perm other) (platform : Platform) (base c : Settings) :
    base.load platform (.object members) = .ok c ↔ base.load platform (.object other) = .ok c := by
  have hother : (Entries.names other).Nodup := (Entries.names_perm hperm).nodup hnodup
  rw [load_object_eq_ok_iff, load_object_eq_ok_iff]
  constructor
  · rintro ⟨layer, hsaid, hlayer⟩
    exact ⟨layer, hsaid.of_perm hnodup hperm, hlayer⟩
  · rintro ⟨layer, hsaid, hlayer⟩
    exact ⟨layer, hsaid.of_perm hother hperm.symm, hlayer⟩

/-- A code may come before the template it is given. -/
theorem load_eq_ok_iff_of_perm_codes_first :
    let templates : String × Json := ("templates", .object [("pair", pairJson)])
    let codes : String × Json := ("codes", .object [("TS9", .string "pair")])
    (Entries.names [templates, codes]).Nodup ∧ [templates, codes].Perm [codes, templates] ∧
      ∃ c, standard.load Platform.bare (.object [templates, codes]) = .ok c ∧
        standard.load Platform.bare (.object [codes, templates]) = .ok c ∧
        c.templates.nameForCode? (.int 9) = some "pair" := by
  intro templates codes
  have hnodup : (Entries.names [templates, codes]).Nodup := by decide
  have hperm : [templates, codes].Perm [codes, templates] := .swap codes templates []
  obtain ⟨c, hload, hcode⟩ : ∃ c, standard.load Platform.bare (.object [templates, codes]) = .ok c ∧
      c.templates.nameForCode? (.int 9) = some "pair" := by
    apply exists_of_toOption
    rw [standard_eq]
    decide +kernel
  exact ⟨hnodup, hperm, c, hload, (load_eq_ok_iff_of_perm hnodup hperm _ standard c).1 hload, hcode⟩

/-! ## Two layers and one of both -/

theorem Replacing.reads_or_iff {α : Type} {read : α → Option Json → Except Failure α}
    (hread : Replacing read) {given given' : Option Json} (hone : given = none ∨ given' = none)
    (value : Option α) :
    Reads read (given.or given') value ↔
      ∃ a b, Reads read given a ∧ Reads read given' b ∧ value = b.or a := by
  have hkept {value : Option α} (h : Reads read none value) (old : α) : value.getD old = old := by
    have hold := h old
    rw [hread.kept] at hold
    exact (Except.ok.inj hold).symm
  -- only one of the two has a value to read, and the other one keeps what it is given
  rcases hone with rfl | rfl
  · constructor
    · intro h
      exact ⟨none, value, hread.kept, h, (Option.or_none).symm⟩
    · rintro ⟨a, b, ha, hb, rfl⟩ old
      rw [Option.getD_or, hkept ha]
      exact hb old
  · rw [Option.or_none]
    constructor
    · intro h
      exact ⟨value, none, h, hread.kept, rfl⟩
    · rintro ⟨a, b, ha, hb, rfl⟩ old
      rw [Option.getD_or, hkept hb]
      exact ha old

theorem readsValues_or_iff {given given' : Setting → Option Json}
    (hone : ∀ setting, given setting = none ∨ given' setting = none) {values : Values} :
    ReadsValues (fun setting => (given setting).or (given' setting)) values ↔
      ∃ a b, ReadsValues given a ∧ ReadsValues given' b ∧ values = a.under b := by
  have hindent := replacing_readIndent.reads_or_iff (hone .indent)
  have hlimit := replacing_readLineLimit.reads_or_iff (hone .lineLimit)
  have hswitch (setting : Setting) := (replacing_readSwitch setting).reads_or_iff (hone setting)
  constructor
  · intro h
    obtain ⟨i, i', hi, hi', hiValue⟩ := (hindent _).1 h.indent
    obtain ⟨l, l', hl, hl', hlValue⟩ := (hlimit _).1 h.lineLimit
    obtain ⟨s, s', hs, hs', hsValue⟩ := (hswitch _ _).1 h.showIcons
    obtain ⟨f, f', hf, hf', hfValue⟩ := (hswitch _ _).1 h.autoOpenFloat
    obtain ⟨m, m', hm, hm', hmValue⟩ := (hswitch _ _).1 h.markDifferences
    obtain ⟨p, p', hp, hp', hpValue⟩ := (hswitch _ _).1 h.showPreview
    refine ⟨⟨i, l, s, f, m, p⟩, ⟨i', l', s', f', m', p'⟩, ⟨hi, hl, hs, hf, hm, hp⟩,
      ⟨hi', hl', hs', hf', hm', hp'⟩, ?_⟩
    cases values
    simp only [Values.under, Values.mk.injEq]
    exact ⟨hiValue, hlValue, hsValue, hfValue, hmValue, hpValue⟩
  · rintro ⟨a, b, ha, hb, rfl⟩
    exact {
      indent := (hindent _).2 ⟨_, _, ha.indent, hb.indent, rfl⟩
      lineLimit := (hlimit _).2 ⟨_, _, ha.lineLimit, hb.lineLimit, rfl⟩
      showIcons := (hswitch _ _).2 ⟨_, _, ha.showIcons, hb.showIcons, rfl⟩
      autoOpenFloat := (hswitch _ _).2 ⟨_, _, ha.autoOpenFloat, hb.autoOpenFloat, rfl⟩
      markDifferences := (hswitch _ _).2 ⟨_, _, ha.markDifferences, hb.markDifferences, rfl⟩
      showPreview := (hswitch _ _).2 ⟨_, _, ha.showPreview, hb.showPreview, rfl⟩ }

theorem readCodes_or_eq_some_iff {given given' : Option Json} (hone : given = none ∨ given' = none)
    {codes : Entries String} :
    readCodes (given.or given') = some codes ↔
      ∃ a b, readCodes given = some a ∧ readCodes given' = some b ∧ codes = a ++ b := by
  rcases hone with rfl | rfl
  · constructor
    · intro h
      exact ⟨[], codes, rfl, h, rfl⟩
    · rintro ⟨a, b, ha, hb, rfl⟩
      cases ha
      exact hb
  · rw [Option.or_none]
    constructor
    · intro h
      exact ⟨codes, [], h, rfl, (List.append_nil codes).symm⟩
    · rintro ⟨a, b, ha, hb, rfl⟩
      cases hb
      rw [List.append_nil]
      exact ha

theorem given?_append (first second : Entries Json) :
    given? (first ++ second) = fun setting => (given? first setting).or (given? second setting) := by
  funext setting
  exact Entries.get?_append

theorem given?_or_none (hdisjoint : (Entries.names first).Disjoint (Entries.names second))
    (setting : Setting) : given? first setting = none ∨ given? second setting = none := by
  simp only [given?, Entries.get?_eq_none_iff]
  by_cases hfirst : setting.name ∈ Entries.names first
  · exact .inr (hdisjoint hfirst)
  · exact .inl hfirst

theorem Says.append {a b : Layer} (ha : Says platform first a) (hb : Says platform second b)
    (hdisjoint : (Entries.names first).Disjoint (Entries.names second)) :
    Says platform (first ++ second) (a.under b) := by
  have hone := given?_or_none hdisjoint
  constructor
  · rw [Entries.names_append, List.forall_mem_append]
    exact ⟨ha.known, hb.known⟩
  · rw [given?_append]
    exact (readsValues_or_iff hone).2 ⟨_, _, ha.values, hb.values, rfl⟩
  · exact groupsOf_append_eq_ok_iff.2 ⟨_, _, ha.groups, hb.groups, rfl⟩
  · exact templatesOf_append_eq_ok_iff.2 ⟨_, _, ha.templates, hb.templates, rfl⟩
  · rw [given?_append]
    exact (readCodes_or_eq_some_iff (hone .codes)).2 ⟨_, _, ha.codes, hb.codes, rfl⟩

theorem Says.exists_of_append (h : Says platform (first ++ second) layer)
    (hdisjoint : (Entries.names first).Disjoint (Entries.names second)) :
    ∃ a b, Says platform first a ∧ Says platform second b ∧ layer = a.under b := by
  have hone := given?_or_none hdisjoint
  obtain ⟨hknown, hvalues, hgroups, htemplates, hcodes⟩ := h
  rw [Entries.names_append, List.forall_mem_append] at hknown
  rw [given?_append] at hvalues hcodes
  obtain ⟨v, v', hv, hv', hvalues⟩ := (readsValues_or_iff hone).1 hvalues
  obtain ⟨g, g', hg, hg', hgroups⟩ := groupsOf_append_eq_ok_iff.1 hgroups
  obtain ⟨t, t', ht, ht', htemplates⟩ := templatesOf_append_eq_ok_iff.1 htemplates
  obtain ⟨k, k', hk, hk', hcodes⟩ := (readCodes_or_eq_some_iff (hone .codes)).1 hcodes
  refine ⟨⟨v, g, t, k⟩, ⟨v', g', t', k'⟩, ⟨hknown.1, hv, hg, ht, hk⟩,
    ⟨hknown.2, hv', hg', ht', hk'⟩, ?_⟩
  cases layer
  simp only [Layer.under, Layer.mk.injEq]
  exact ⟨hvalues, hgroups, htemplates, hcodes⟩

theorem Says.codes_eq_nil (h : Says platform members layer)
    (hcodes : "codes" ∉ Entries.names members) : layer.codes = [] := by
  have hgiven : given? members .codes = none := Entries.get?_eq_none_iff.2 hcodes
  have hread := h.codes
  rw [hgiven] at hread
  exact (Option.some.inj hread).symm

theorem Says.templates_eq_nil (h : Says platform members layer)
    (htemplates : "templates" ∉ Entries.names members) : layer.templates = [] := by
  have hread := h.templates
  rw [templatesOf, show Setting.templates.name = "templates" from rfl,
    Entries.getAll_eq_nil htemplates] at hread
  exact (Except.ok.inj hread).symm

/-- **Overrides in two layers are the same as overrides in one.**  What is loaded in two goes, with
no name in both, is loaded at once with the same outcome.  What is loaded at once is loaded in two
goes as well, unless the first has codes and the second templates. -/
theorem load_append_agrees_with_layers
    (hdisjoint : (Entries.names first).Disjoint (Entries.names second))
    (platform : Platform) (base c : Settings) :
    ((∃ s, base.load platform (.object first) = .ok s ∧ s.load platform (.object second) = .ok c) →
      base.load platform (.object (first ++ second)) = .ok c) ∧
    (¬ ("codes" ∈ Entries.names first ∧ "templates" ∈ Entries.names second) →
      base.load platform (.object (first ++ second)) = .ok c →
        ∃ s, base.load platform (.object first) = .ok s ∧
          s.load platform (.object second) = .ok c) := by
  simp only [load_object_eq_ok_iff]
  constructor
  · rintro ⟨_, ⟨a, ha, hfits, rfl⟩, b, hb, hfits', rfl⟩
    exact ⟨a.under b, ha.append hb hdisjoint, hfits.under hfits', (a.on_under b base).symm⟩
  · rintro hexcept ⟨layer, hsaid, hfits, rfl⟩
    obtain ⟨a, b, ha, hb, rfl⟩ := hsaid.exists_of_append hdisjoint
    have hone : a.codes = [] ∨ b.templates = [] := by
      rcases not_and_or.1 hexcept with hcodes | htemplates
      · exact .inl (ha.codes_eq_nil hcodes)
      · exact .inr (hb.templates_eq_nil htemplates)
    obtain ⟨hfirst, hsecond⟩ := hfits.of_under hone
    exact ⟨_, ⟨a, ha, hfirst, rfl⟩, b, hb, hsecond, a.on_under b base⟩

/-- Templates and then their codes are loaded in two goes and at once; codes and then their templates
only at once. -/
theorem load_append_agrees_with_layers_of_codes_last :
    let first : Entries Json :=
      [("max_line_length", .int 40), ("templates", .object [("pair", pairJson)])]
    let second : Entries Json :=
      [("codes", .object [("TS9", .string "pair")]), ("indent", .string "\t")]
    (Entries.names first).Disjoint (Entries.names second) ∧
      ¬ ("codes" ∈ Entries.names first ∧ "templates" ∈ Entries.names second) ∧
      (∃ c, standard.load Platform.bare (.object (first ++ second)) = .ok c ∧
        (∃ s, standard.load Platform.bare (.object first) = .ok s ∧
          s.load Platform.bare (.object second) = .ok c) ∧
        c.lineLimit = 40 ∧ c.templates.nameForCode? (.int 9) = some "pair") ∧
      (∃ c, standard.load Platform.bare (.object (second ++ first)) = .ok c ∧ c.lineLimit = 40) ∧
      ∀ s, standard.load Platform.bare (.object second) ≠ .ok s := by
  intro first second
  have hdisjoint : (Entries.names first).Disjoint (Entries.names second) := by
    have hnames : ∀ name ∈ Entries.names first, name ∉ Entries.names second := by decide
    exact hnames
  have hexcept : ¬ ("codes" ∈ Entries.names first ∧ "templates" ∈ Entries.names second) := by decide
  refine ⟨hdisjoint, hexcept, ?_, ?_, ?_⟩
  · obtain ⟨c, hload, hfacts⟩ :
        ∃ c, (standard.load Platform.bare (.object first) >>= fun s =>
            s.load Platform.bare (.object second)) = .ok c ∧
          (c.lineLimit, c.templates.nameForCode? (.int 9)) = (40, some "pair") := by
      apply exists_of_toOption
      rw [standard_eq]
      decide +kernel
    rw [Prod.mk.injEq] at hfacts
    obtain ⟨honce, htwice⟩ := load_append_agrees_with_layers hdisjoint Platform.bare standard c
    have hcombined := honce (bind_eq_ok_iff.1 hload)
    exact ⟨c, hcombined, htwice hexcept hcombined, hfacts⟩
  · apply exists_of_toOption
    rw [standard_eq]
    decide +kernel
  · have hrefused : (standard.load Platform.bare (.object second)).toOption = none := by
      rw [standard_eq]
      decide +kernel
    intro s hload
    rw [hload] at hrefused
    cases hrefused

/-! ## The same layer twice -/

/-- **Overrides that are loaded again change nothing.** -/
theorem load_again (h : base.load platform overrides = .ok c) :
    c.load platform overrides = .ok c := by
  rw [load_eq_ok_iff] at h ⊢
  rcases h with ⟨hvacant, rfl⟩ | ⟨members, rfl, layer, hsaid, hfits, rfl⟩
  · exact .inl ⟨hvacant, rfl⟩
  · exact .inr ⟨members, rfl, layer, hsaid, hfits.on, (layer.on_on base).symm⟩

/-- Two spellings of one code, and a template in the place of another, are put on again. -/
theorem load_again_of_replaced_template :
    let overrides : Json := .object
      [("codes", .object
          [("9", .string "pair"), ("TS2322", .string "property"), (" ts9", .string "property")]),
        ("highlight_groups", .object [("title", .string "A"), ("note", .string "B")]),
        ("templates", .object [("pair", pairJson), ("property", pairJson)])]
    ∃ c, standard.load Platform.bare overrides = .ok c ∧ c.load Platform.bare overrides = .ok c ∧
      c.templates.names = ["overload", "parameter", "missing_props", "property", "assignability",
        "return_mismatch", "pair"] ∧
      Entries.names c.templates.codes = ["2322", "2345", "2339", "2741", "2416", "2769", "9"] ∧
      Entries.get? "9" c.templates.codes = some "property" := by
  intro overrides
  obtain ⟨c, hload, hfacts⟩ : ∃ c, standard.load Platform.bare overrides = .ok c ∧
      (c.templates.names, Entries.names c.templates.codes,
          Entries.get? "9" c.templates.codes) =
        (["overload", "parameter", "missing_props", "property", "assignability",
            "return_mismatch", "pair"],
          ["2322", "2345", "2339", "2741", "2416", "2769", "9"], some "property") := by
    apply exists_of_toOption
    rw [standard_eq]
    decide +kernel
  rw [Prod.mk.injEq, Prod.mk.injEq] at hfacts
  exact ⟨c, hload, load_again hload, hfacts⟩

end Settings

end TypeMismatch
