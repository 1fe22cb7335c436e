import TypeMismatch.Proofs.Json.Display
import TypeMismatch.Proofs.Session
import TypeMismatch.Proofs.Settings.Layer
import TypeMismatch.Proofs.Template.Reading

/-!
# Loading settings

Loading goes through the members of the overrides, then through the codes, then through the values
of the other settings.  Every step is answered but three: a template can be described in a way that
is not guarded, so can the name that is given to a code, and a line limit that is too low can have
too many digits to be shown.  Loading raises exactly where one of these is the first step that fails
(`raises_merge_iff`).
-/

namespace TypeMismatch.Settings

variable {platform : Platform} {base s : Settings} {members : Entries Json} {overrides : Json}

/-! ## Steps that are answered in any case -/

theorem not_raises_readGroups (value : Json) : ¬ Raises (readGroups value) := by
  unfold readGroups
  split
  · next members =>
    induction members with
    | nil => exact not_raises_ok _
    | cons member members ih =>
      obtain ⟨key, value⟩ := member
      unfold readGroupEntries
      split
      · exact not_raises_ok _
      · next h =>
        cases h
        rw [raises_map_iff]
        exact ih
      · exact not_raises_setting _ _
  · exact not_raises_setting _ _

theorem not_raises_readIndent (old : String) (value? : Option Json) :
    ¬ Raises (readIndent old value?) := by
  unfold readIndent
  split
  · exact not_raises_ok _
  · exact not_raises_ok _
  · exact not_raises_setting _ _

theorem not_raises_readSwitch (setting : Setting) (old : Bool) (value? : Option Json) :
    ¬ Raises (readSwitch setting old value?) := by
  unfold readSwitch
  split
  · exact not_raises_ok _
  · exact not_raises_ok _
  · exact not_raises_setting _ _

/-! ## The line limit -/

/-- A number that is too low for a line limit, and has too many digits to be shown. -/
inductive Unshown : Json → Prop
  | int {n : Int} (low : n < (minLineLimit : Int)) (long : Decimal.isWritable n = false) :
      Unshown (.int n)

theorem raises_readLineLimit_iff {old : Nat} {value? : Option Json} :
    Raises (readLineLimit old value?) ↔ ∃ value, value? = some value ∧ Unshown value := by
  unfold readLineLimit
  split
  · exact iff_of_false (not_raises_ok _) nofun
  · next n =>
    split
    · next hlimit =>
      refine iff_of_false (not_raises_ok _) ?_
      rintro ⟨_, ⟨⟩, ⟨hlow, -⟩⟩
      omega
    · next hlow =>
      split
      · next hshown =>
        refine iff_of_false (not_raises_setting _ _) ?_
        rintro ⟨_, ⟨⟩, ⟨-, hlong⟩⟩
        rw [hlong] at hshown
        cases hshown
      · next hlong =>
        exact iff_of_true (.failure rfl)
          ⟨_, rfl, .int (Int.not_le.1 hlow) (Bool.eq_false_iff.2 hlong)⟩
  · next hint =>
    refine iff_of_false (not_raises_setting _ _) ?_
    rintro ⟨_, hvalue, hunshown⟩
    cases hunshown with
    | int hlow hlong => exact hint _ (Option.some.inj hvalue)

/-- The line limit is one that is not shown, and is looked at: the indent, which comes before it, is
not refused. -/
inductive UnguardedLimit (members : Entries Json) : Prop
  | limit {value : Json}
      (indented : ∀ value, Entries.get? "indent" members = some value → value.kind = .string)
      (member : Entries.get? "max_line_length" members = some value) (unshown : Unshown value)

theorem readIndent_eq_ok_iff {old : String} {value? : Option Json} :
    (∃ indent, readIndent old value? = .ok indent) ↔
      ∀ value, value? = some value → value.kind = .string := by
  cases value? with
  | none => exact iff_of_true ⟨old, rfl⟩ nofun
  | some value =>
    cases value with
    | string text => exact iff_of_true ⟨text, rfl⟩ fun _ h => by cases h; rfl
    | _ => exact iff_of_false nofun fun h => nomatch h _ rfl

theorem raises_mergeValues_iff : Raises (s.mergeValues members) ↔ UnguardedLimit members := by
  unfold mergeValues
  constructor
  · intro h
    rcases raises_bind_iff.1 h with h | ⟨indent, hindent, h⟩
    · exact absurd h (not_raises_readIndent _ _)
    rcases raises_bind_iff.1 h with h | ⟨limit, -, h⟩
    · obtain ⟨value, hmember, hunshown⟩ := raises_readLineLimit_iff.1 h
      exact .limit (readIndent_eq_ok_iff.1 ⟨indent, hindent⟩) hmember hunshown
    · -- behind the line limit there are switches only
      refine absurd h (not_raises_bind (not_raises_readSwitch _ _ _) fun _ => ?_)
      refine not_raises_bind (not_raises_readSwitch _ _ _) fun _ => ?_
      refine not_raises_bind (not_raises_readSwitch _ _ _) fun _ => ?_
      exact not_raises_bind (not_raises_readSwitch _ _ _) fun _ => not_raises_ok _
  · rintro ⟨hindented, hmember, hunshown⟩
    obtain ⟨indent, hindent⟩ := readIndent_eq_ok_iff.2 hindented
    refine raises_bind_iff.2 (.inr ⟨indent, hindent, raises_bind_iff.2 (.inl ?_)⟩)
    exact raises_readLineLimit_iff.2 ⟨_, hmember, hunshown⟩

/-! ## Templates -/

theorem raises_mergeTemplate_iff {set : TemplateSet} {name : String} {value : Json} :
    Raises (mergeTemplate platform set (name, value)) ↔
      ∃ described, value = .object described ∧ name ≠ "" ∧
        Template.Unguarded platform (Json.member described "pattern")
          (Json.member described "labels") := by
  unfold mergeTemplate
  split
  · next described heq =>
    rw [TemplateSet.register, raises_map_iff, Template.raises_ofJson_iff]
    constructor
    · rintro ⟨hname, hunguarded⟩
      exact ⟨described, heq, hname, hunguarded⟩
    · rintro ⟨described', heq', hname, hunguarded⟩
      cases heq.symm.trans heq'
      exact ⟨hname, hunguarded⟩
  · next hobject =>
    rw [TemplateSet.register, raises_map_iff, Template.raises_ofJson_iff]
    constructor
    · rintro ⟨-, ⟨⟩⟩
    · rintro ⟨described, heq, -⟩
      exact absurd heq (hobject described)

/-- Among some entries there is one that describes a template without a guard, and all entries
before it are merged. -/
inductive UnguardedTemplate (platform : Platform) (set : TemplateSet) (entries : Entries Json) :
    Prop
  | entry {earlier described later : Entries Json} {name : String} {next : TemplateSet}
      (split : entries = earlier ++ (name, .object described) :: later)
      (built : earlier.foldlM (mergeTemplate platform) set = .ok next) (named : name ≠ "")
      (unguarded : Template.Unguarded platform (Json.member described "pattern")
        (Json.member described "labels"))

theorem raises_mergeTemplates_iff {set : TemplateSet} {value : Json} :
    Raises (mergeTemplates platform set value) ↔
      ∃ entries, value = .object entries ∧ UnguardedTemplate platform set entries := by
  cases value with
  | object entries =>
    rw [mergeTemplates, raises_foldlM_iff]
    constructor
    · rintro ⟨earlier, ⟨name, _⟩, later, next, hsplit, hbuilt, hentry⟩
      obtain ⟨described, rfl, hname, hunguarded⟩ := raises_mergeTemplate_iff.1 hentry
      exact ⟨entries, rfl, .entry hsplit hbuilt hname hunguarded⟩
    · rintro ⟨_, ⟨⟩, hsplit, hbuilt, hname, hunguarded⟩
      exact ⟨_, _, _, _, hsplit, hbuilt, raises_mergeTemplate_iff.2 ⟨_, rfl, hname, hunguarded⟩⟩
  | _ =>
    constructor
    · intro h
      exact absurd h (not_raises_setting _ _)
    · rintro ⟨entries, ⟨⟩, -⟩

theorem raises_mergeMember_iff {name : String} {value : Json} :
    Raises (s.mergeMember platform (name, value)) ↔
      name = "templates" ∧ Raises (mergeTemplates platform s.templates value) := by
  have htemplates : Setting.ofName? name = some .templates ↔ name = "templates" :=
    ofName?_eq_some_iff
  rw [← htemplates]
  unfold mergeMember
  cases hname : Setting.ofName? name with
  | none =>
    constructor
    · intro h
      exact absurd h (not_raises_setting _ _)
    · rintro ⟨⟨⟩, -⟩
  | some setting =>
    cases setting with
    | templates => simp only [raises_map_iff, true_and]
    | highlightGroups =>
      simp only [raises_map_iff, not_raises_readGroups, Option.some.injEq, reduceCtorEq, false_and]
    | _ => simp [not_raises_ok]

/-! ## Codes -/

/-- A value that cannot be looked for among names, or is none of them and cannot be shown. -/
inductive Unresolvable : Json → Prop
  | array (items : List Json) : Unresolvable (.array items)
  | object (members : List (String × Json)) : Unresolvable (.object members)
  | int {n : Int} (long : Decimal.isWritable n = false) : Unresolvable (.int n)

theorem raises_written_iff {value : Json} : Raises value.written ↔ value.HasLongNumeral := by
  rw [← Json.plain?_eq_none_iff, Json.written]
  cases value.plain? with
  | some text => exact iff_of_false (not_raises_ok _) nofun
  | none => exact iff_of_true (.failure rfl) rfl

/-- A value that is neither an array nor an object can be looked for, but has to be shown. -/
theorem unresolvable_iff_hasLongNumeral {value : Json} (harray : value.kind ≠ .array)
    (hobject : value.kind ≠ .object) : Unresolvable value ↔ value.HasLongNumeral := by
  constructor
  · intro h
    cases h with
    | array => exact absurd rfl harray
    | object => exact absurd rfl hobject
    | int hlong => exact .int hlong
  · intro h
    cases h with
    | int hlong => exact .int hlong
    | item => exact absurd rfl harray
    | member => exact absurd rfl hobject

theorem raises_resolveName_iff {set : TemplateSet} {key : String} {value : Json} :
    Raises (set.resolveName key value) ↔ Unresolvable value := by
  have hshown : ∀ value : Json, value.kind ≠ .array → value.kind ≠ .object →
      (Raises (value.written >>= fun shown =>
        (.error (set.unknownName key shown) : Except Failure String)) ↔ Unresolvable value) := by
    intro value harray hobject
    rw [unresolvable_iff_hasLongNumeral harray hobject, raises_bind_iff, raises_written_iff,
      or_iff_left]
    rintro ⟨shown, -, h⟩
    exact not_raises_setting _ _ h
  cases value with
  | array items => exact iff_of_true (.failure rfl) (.array items)
  | object members => exact iff_of_true (.failure rfl) (.object members)
  | string name =>
    have hresolvable : ¬ Unresolvable (.string name) := by
      intro h
      cases h
    refine iff_of_false ?_ hresolvable
    rw [TemplateSet.resolveName]
    split
    · exact not_raises_ok _
    · exact not_raises_setting _ _
  | null => exact hshown .null (by rintro ⟨⟩) (by rintro ⟨⟩)
  | bool b => exact hshown (.bool b) (by rintro ⟨⟩) (by rintro ⟨⟩)
  | int n => exact hshown (.int n) (by rintro ⟨⟩) (by rintro ⟨⟩)
  | float x => exact hshown (.float x) (by rintro ⟨⟩) (by rintro ⟨⟩)

theorem raises_assign_iff {set : TemplateSet} {code : String} {value : Json} :
    Raises (set.assign (.string code) value) ↔
      Code.normalize? (.string code) ≠ none ∧ Unresolvable value := by
  unfold TemplateSet.assign
  cases Code.normalize? (.string code) with
  | none => exact iff_of_false (not_raises_setting _ _) fun h => h.1 rfl
  | some key =>
    dsimp only
    rw [raises_map_iff, raises_resolveName_iff, and_iff_right (Option.some_ne_none key)]

/-- Among some codes there is one that is given such a value, and all codes before it are mapped. -/
inductive UnguardedCode (set : TemplateSet) (codes : Entries Json) : Prop
  | entry {earlier later : Entries Json} {code : String} {value : Json} {next : TemplateSet}
      (split : codes = earlier ++ (code, value) :: later)
      (mapped : set.withCodes (TemplateSet.codesOfMembers earlier) = .ok next)
      (coded : Code.normalize? (.string code) ≠ none) (unresolvable : Unresolvable value)

theorem raises_withCodes_iff {set : TemplateSet} {codes : Entries Json} :
    Raises (set.withCodes (TemplateSet.codesOfMembers codes)) ↔ UnguardedCode set codes := by
  rw [TemplateSet.withCodes, TemplateSet.codesOfMembers, List.foldlM_map, raises_foldlM_iff]
  simp only [raises_assign_iff]
  constructor
  · rintro ⟨earlier, ⟨code, value⟩, later, next, hsplit, hmapped, hcoded, hunhashed⟩
    have hcodes : set.withCodes (TemplateSet.codesOfMembers earlier) = .ok next := by
      rwa [TemplateSet.withCodes, TemplateSet.codesOfMembers, List.foldlM_map]
    exact .entry hsplit hcodes hcoded hunhashed
  · rintro ⟨hsplit, hmapped, hcoded, hunhashed⟩
    rw [TemplateSet.withCodes, TemplateSet.codesOfMembers, List.foldlM_map] at hmapped
    exact ⟨_, _, _, _, hsplit, hmapped, hcoded, hunhashed⟩

theorem raises_mergeCodes_iff {value? : Option Json} :
    Raises (s.mergeCodes value?) ↔
      ∃ codes, value? = some (.object codes) ∧ UnguardedCode s.templates codes := by
  unfold mergeCodes
  split
  · constructor
    · intro h
      exact absurd h (not_raises_ok _)
    · rintro ⟨codes, ⟨⟩, -⟩
  · next codes =>
    rw [raises_map_iff, raises_withCodes_iff]
    constructor
    · intro h
      exact ⟨codes, rfl, h⟩
    · rintro ⟨_, ⟨⟩, h⟩
      exact h
  · next hobject =>
    constructor
    · intro h
      exact absurd h (not_raises_setting _ _)
    · rintro ⟨codes, hvalue, -⟩
      exact absurd (Option.some.inj hvalue) (hobject codes)

/-! ## Overrides -/

/-- Loading comes to a step that is not guarded: the description of a template, or, when all members
are merged, the name for a code, or, when the codes are mapped as well, the line limit. -/
inductive Unguarded (platform : Platform) (base : Settings) (members : Entries Json) : Prop
  | template {before entries after : Entries Json} {s : Settings}
      (member : members = before ++ ("templates", .object entries) :: after)
      (merged : before.foldlM (mergeMember platform) base = .ok s)
      (unguarded : UnguardedTemplate platform s.templates entries)
  | code {codes : Entries Json} {s : Settings}
      (merged : members.foldlM (mergeMember platform) base = .ok s)
      (member : Entries.get? "codes" members = some (.object codes))
      (unguarded : UnguardedCode s.templates codes)
  | limit {s coded : Settings} (merged : members.foldlM (mergeMember platform) base = .ok s)
      (mapped : s.mergeCodes (Entries.get? "codes" members) = .ok coded)
      (unguarded : UnguardedLimit members)

theorem raises_mergeMembers_iff :
    Raises (members.foldlM (mergeMember platform) base) ↔
      ∃ before entries after s, members = before ++ ("templates", .object entries) :: after ∧
        before.foldlM (mergeMember platform) base = .ok s ∧
        UnguardedTemplate platform s.templates entries := by
  rw [raises_foldlM_iff]
  constructor
  · rintro ⟨before, ⟨name, value⟩, after, s, hmember, hmerged, h⟩
    obtain ⟨rfl, hvalue⟩ := raises_mergeMember_iff.1 h
    obtain ⟨entries, rfl, hunguarded⟩ := raises_mergeTemplates_iff.1 hvalue
    exact ⟨before, entries, after, s, hmember, hmerged, hunguarded⟩
  · rintro ⟨before, entries, after, s, hmember, hmerged, hunguarded⟩
    refine ⟨before, _, after, s, hmember, hmerged, raises_mergeMember_iff.2 ⟨rfl, ?_⟩⟩
    exact raises_mergeTemplates_iff.2 ⟨entries, rfl, hunguarded⟩

theorem raises_merge_iff :
    Raises (base.merge platform members) ↔ base.Unguarded platform members := by
  rw [merge, raises_bind_iff, raises_mergeMembers_iff]
  constructor
  · rintro (⟨before, entries, after, s, hmember, hmerged, hunguarded⟩ | ⟨s, hmerged, h⟩)
    · exact .template hmember hmerged hunguarded
    · rcases raises_bind_iff.1 h with h | ⟨coded, hmapped, h⟩
      · obtain ⟨codes, hmember, hunguarded⟩ := raises_mergeCodes_iff.1 h
        exact .code hmerged hmember hunguarded
      · exact .limit hmerged hmapped (raises_mergeValues_iff.1 h)
  · -- codes are only come to when all members are merged, and values after the codes
    rintro (⟨hmember, hmerged, hunguarded⟩ | ⟨hmerged, hmember, hunguarded⟩ |
      ⟨hmerged, hmapped, hunguarded⟩)
    · exact .inl ⟨_, _, _, _, hmember, hmerged, hunguarded⟩
    · refine .inr ⟨_, hmerged, raises_bind_iff.2 (.inl ?_)⟩
      exact raises_mergeCodes_iff.2 ⟨_, hmember, hunguarded⟩
    · refine .inr ⟨_, hmerged, raises_bind_iff.2 (.inr ⟨_, hmapped, ?_⟩)⟩
      exact raises_mergeValues_iff.2 hunguarded

theorem not_unguarded_nil : ¬ base.Unguarded platform [] := by
  rintro (⟨hmember, -⟩ | ⟨-, hmember, -⟩ | ⟨-, -, -, hmember, -⟩)
  · simp at hmember
  · cases hmember
  · cases hmember

theorem raises_load_iff :
    Raises (base.load platform overrides) ↔
      ∃ members, overrides = .object members ∧ base.Unguarded platform members := by
  rw [load, raises_map_iff]
  unfold change?
  split
  · next hvacant =>
    constructor
    · intro h
      exact absurd h (not_raises_ok _)
    · rintro ⟨members, rfl, h⟩
      rw [List.isEmpty_iff.1 hvacant] at h
      exact absurd h not_unguarded_nil
  · split
    · next members _ =>
      rw [raises_map_iff, raises_merge_iff]
      constructor
      · intro h
        exact ⟨members, rfl, h⟩
      · rintro ⟨_, ⟨⟩, h⟩
        exact h
    · next hobject =>
      constructor
      · intro h
        exact absurd h (not_raises_setting _ _)
      · rintro ⟨members, hoverrides, -⟩
        exact absurd hoverrides (hobject members)

/-- **Overrides are answered unless they come to a step that is not guarded.**  Whatever is loaded
on top of whatever settings, the outcome is settings or a failure with a report, except where a
template, the name for a code or the line limit is given in an unguarded way and nothing before it
is refused.  A session has an answer for all settings that are sent, with the same exception. -/
theorem load_answered_iff_guarded (platform : Platform) (base : Settings) (overrides : Json)
    (session : Session) (sent : Json) :
    (Answered (base.load platform overrides) ↔
        ¬ ∃ members, overrides = .object members ∧ base.Unguarded platform members) ∧
      ((∃ next reception, session.receive platform sent = .ok (next, reception)) ↔
        ¬ ∃ members, Session.sectionOf sent = .object members ∧
          standard.Unguarded platform members) := by
  constructor
  · rw [answered_iff_not_raises, raises_load_iff]
  · rw [Session.receive_eq_ok_iff, raises_load_iff, or_iff_right_iff_imp]
    -- settings that say nothing never come to a step: they have no members
    rintro hvacant ⟨members, hsection, hunguarded⟩
    cases sent with
    | object sent =>
      rw [List.isEmpty_iff.1 hvacant] at hsection
      cases hsection
      exact not_unguarded_nil hunguarded
    | _ => cases hsection

/-- Overrides with a template whose labels are given as a number. -/
def numberedLabels : Json :=
  .object [("templates",
    .object [("x", .object [("pattern", .string "(a)(b)"), ("labels", .int 5)])])]

theorem change?_numberedLabels :
    standard.change? Platform.bare numberedLabels = .error .unusable :=
  eq_error_of_match (by decide +kernel)

/-- The labels of a template are not guarded against a number. -/
theorem load_numberedLabels_unusable :
    standard.load Platform.bare numberedLabels = .error .unusable ∧
      (∀ session : Session, session.receive Platform.bare numberedLabels = .error .unusable) ∧
      ¬ ∀ platform overrides, Answered (standard.load platform overrides) := by
  have hload : standard.load Platform.bare numberedLabels = .error .unusable := by
    rw [load, change?_numberedLabels]
    rfl
  refine ⟨hload, ?_, ?_⟩
  · intro session
    have hsection : Session.sectionOf numberedLabels = numberedLabels := rfl
    rw [Session.receive, hsection, change?_numberedLabels]
    rfl
  · intro hall
    have hanswered := hall Platform.bare numberedLabels
    rw [hload, answered_iff_not_raises] at hanswered
    exact hanswered (.failure rfl)

end TypeMismatch.Settings
