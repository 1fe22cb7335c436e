import TypeMismatch.Proofs.Settings.Loading
import TypeMismatch.Settings.File

/-!
# Loading a file

What is in a file is decoded, read as JSON and loaded.  Each of the three can fail without a report
(`raises_loadContent_iff`), and none of them fails as if the file were missing
(`loadContent_ne_missing`): loading reads nothing (`not_unread_load`).  For the same reason it is
the text of the file that gives half of a pair of code units, if anything does
(`loadContent_eq_loneSurrogate_iff`).
-/

namespace TypeMismatch

namespace TemplateSet

theorem not_unread_assign (set : TemplateSet) (code value : Json) :
    ¬ Unread (set.assign code value) := by
  have hwritten : ∀ value : Json, ¬ Unread value.written := by
    intro value
    unfold Json.written
    split <;> nofun
  have hname : ∀ key, ¬ Unread (set.resolveName key value) := by
    intro key
    unfold resolveName
    split
    · nofun
    · nofun
    · split <;> nofun
    · exact not_unread_bind (hwritten _) fun _ => nofun
  unfold assign
  split
  · exact not_unread_map (hname _) _
  · exact nofun
  · exact nofun

end TemplateSet

namespace Settings

variable {platform : Platform}

theorem not_unread_mergeTemplates (set : TemplateSet) (value : Json) :
    ¬ Unread (mergeTemplates platform set value) := by
  unfold mergeTemplates
  split
  · refine not_unread_foldlM (fun set entry => ?_) _ _
    unfold mergeTemplate
    split <;> exact not_unread_map (Template.not_unread_ofJson _ _ _ _) _
  · exact nofun

theorem not_unread_mergeMember (s : Settings) (member : String × Json) :
    ¬ Unread (s.mergeMember platform member) := by
  unfold mergeMember
  split
  · exact nofun
  · exact not_unread_map (not_unread_of_not_raises (not_raises_readGroups _)) _
  · exact not_unread_map (not_unread_mergeTemplates _ _) _
  · exact nofun

theorem not_unread_mergeCodes (s : Settings) (value? : Option Json) :
    ¬ Unread (s.mergeCodes value?) := by
  unfold mergeCodes
  split
  · exact nofun
  · exact not_unread_map (not_unread_foldlM (fun set entry => set.not_unread_assign _ _) _ _) _
  · exact nofun

theorem not_unread_mergeValues (s : Settings) (members : Entries Json) :
    ¬ Unread (s.mergeValues members) := by
  have hlimit : ∀ old value?, ¬ Unread (readLineLimit old value?) := by
    intro old value?
    unfold readLineLimit
    split
    · nofun
    · split
      · nofun
      · split <;> nofun
    · nofun
  have hswitch : ∀ setting old value?, ¬ Unread (readSwitch setting old value?) :=
    fun _ _ _ => not_unread_of_not_raises (not_raises_readSwitch _ _ _)
  unfold mergeValues
  refine not_unread_bind (not_unread_of_not_raises (not_raises_readIndent _ _)) fun _ => ?_
  refine not_unread_bind (hlimit _ _) fun _ => not_unread_bind (hswitch _ _ _) fun _ => ?_
  refine not_unread_bind (hswitch _ _ _) fun _ => not_unread_bind (hswitch _ _ _) fun _ => ?_
  exact not_unread_map (hswitch _ _ _) _

/-- Loading reads no files and no text. -/
theorem not_unread_load (base : Settings) (overrides : Json) :
    ¬ Unread (base.load platform overrides) := by
  refine not_unread_map ?_ _
  unfold change?
  split
  · exact nofun
  · split
    · refine not_unread_map (not_unread_bind ?_ fun s => ?_) _
      · exact not_unread_foldlM not_unread_mergeMember _ _
      · exact not_unread_bind (not_unread_mergeCodes s _) fun s => not_unread_mergeValues s _
    · exact nofun

/-! ## Files -/

variable {base : Settings} {path : String} {text : List Char} {content : ByteArray}

theorem raises_readOverrides_iff :
    Raises (readOverrides platform path text) ↔
      (Json.read platform text = .error .longNumeral ∨ Json.read platform text = .error .tooDeep) ∨
        Json.read platform text = .error .loneSurrogate := by
  unfold readOverrides
  split
  · next heq => exact iff_of_false (not_raises_setting _ _) (by simp [heq])
  · next heq => exact iff_of_true (.failure rfl) (.inl (.inl heq))
  · next heq => exact iff_of_true (.failure rfl) (.inr heq)
  · next heq => exact iff_of_true (.failure rfl) (.inl (.inr heq))
  · next heq => exact iff_of_false (not_raises_ok _) (by simp [heq])
  · next heq => exact iff_of_false (not_raises_setting _ _) (by simp [heq])

theorem readOverrides_eq_ok_iff {overrides : Json} :
    readOverrides platform path text = .ok overrides ↔
      ∃ members, Json.read platform text = .ok (.object members) ∧
        overrides = .object members := by
  unfold readOverrides
  split
  · next heq => simp [heq]
  · next heq => simp [heq]
  · next heq => simp [heq]
  · next heq => simp [heq]
  · next heq => simp [heq, eq_comm]
  · next hobject heq =>
    refine iff_of_false nofun ?_
    rintro ⟨members, hread, -⟩
    rw [heq] at hread
    exact hobject members (Except.ok.inj hread)

theorem raises_decode_iff : Raises (decode content) ↔ String.fromUTF8? content = none := by
  unfold decode
  split
  · next heq => exact iff_of_false (not_raises_ok _) (by simp [heq])
  · next heq => exact iff_of_true (.failure rfl) heq

/-- What is in a file cannot be made settings, for a reason that has no report: its bytes are no
text, its text is beyond the limits of the reader, or its overrides come to a step that is not
guarded. -/
inductive Unloadable (platform : Platform) (base : Settings) (content : ByteArray) : Prop
  | undecoded (bytes : String.fromUTF8? content = none)
  | limit {text : List Char} (decoded : decode content = .ok text)
      (refused : Json.read platform text = .error .longNumeral ∨
        Json.read platform text = .error .tooDeep)
  | unguarded {text : List Char} {members : Entries Json} (decoded : decode content = .ok text)
      (read : Json.read platform text = .ok (.object members))
      (unguarded : base.Unguarded platform members)

/-- A string in the text of a file gives half of a pair of code units. -/
inductive Halved (platform : Platform) (content : ByteArray) : Prop
  | text {text : List Char} (decoded : decode content = .ok text)
      (halved : Json.read platform text = .error .loneSurrogate)

theorem Unloadable.not_halved (h : base.Unloadable platform content) :
    ¬ Halved platform content := by
  rintro ⟨hdecoded, hhalved⟩
  cases h with
  | undecoded hbytes =>
    have hraises := raises_decode_iff.2 hbytes
    rw [hdecoded] at hraises
    exact not_raises_ok _ hraises
  | limit hdecoded' hrefused =>
    cases hdecoded.symm.trans hdecoded'
    simp [hhalved] at hrefused
  | unguarded hdecoded' hread hunguarded =>
    cases hdecoded.symm.trans hdecoded'
    cases hhalved.symm.trans hread

theorem raises_loadContent_iff :
    Raises (base.loadContent platform path content) ↔
      base.Unloadable platform content ∨ Halved platform content := by
  unfold loadContent
  simp only [raises_bind_iff, raises_decode_iff, raises_readOverrides_iff, raises_load_iff,
    readOverrides_eq_ok_iff]
  constructor
  · rintro (hbytes | ⟨text, hdecoded,
      (hrefused | hhalved) | ⟨_, ⟨_, hread, rfl⟩, members, ⟨⟩, hunguarded⟩⟩)
    · exact .inl (.undecoded hbytes)
    · exact .inl (.limit hdecoded hrefused)
    · exact .inr ⟨hdecoded, hhalved⟩
    · exact .inl (.unguarded hdecoded hread hunguarded)
  · rintro ((hbytes | ⟨hdecoded, hrefused⟩ | ⟨hdecoded, hread, hunguarded⟩) |
      ⟨hdecoded, hhalved⟩)
    · exact .inl hbytes
    · exact .inr ⟨_, hdecoded, .inl (.inl hrefused)⟩
    · exact .inr ⟨_, hdecoded, .inr ⟨_, ⟨_, hread, rfl⟩, _, rfl, hunguarded⟩⟩
    · exact .inr ⟨_, hdecoded, .inl (.inr hhalved)⟩

theorem loadFile_of_read {readFile : Files.Path → Except FileFault ByteArray}
    (hread : readFile (Files.Path.ofText path) = .ok content) :
    base.loadFile platform readFile path =
      base.loadContent platform (Files.Path.ofText path).text content := by
  rw [loadFile, hread]

/-- A file that was read is not missing. -/
theorem loadContent_ne_missing :
    base.loadContent platform path content ≠ .error (.file .missing) := by
  intro h
  rcases bind_eq_error_iff.1 h with h | ⟨text, -, h⟩
  · unfold decode at h
    split at h <;> cases h
  · rcases bind_eq_error_iff.1 h with h | ⟨overrides, -, h⟩
    · unfold readOverrides at h
      split at h <;> cases h
    · have hload := @not_unread_load platform base overrides
      rw [h] at hload
      exact hload (.file .missing)

theorem loadContent_eq_loneSurrogate_iff :
    base.loadContent platform path content = .error .loneSurrogate ↔ Halved platform content := by
  constructor
  · intro h
    rcases bind_eq_error_iff.1 h with h | ⟨text, hdecoded, h⟩
    · unfold decode at h
      split at h <;> cases h
    · rcases bind_eq_error_iff.1 h with h | ⟨overrides, -, h⟩
      · unfold readOverrides at h
        split at h <;> cases h
        next hhalved => exact .text hdecoded hhalved
      · have hload := @not_unread_load platform base overrides
        rw [h] at hload
        exact absurd .loneSurrogate hload
  · rintro ⟨hdecoded, hhalved⟩
    refine bind_eq_error_iff.2 (.inr ⟨_, hdecoded, bind_eq_error_iff.2 (.inl ?_)⟩)
    rw [readOverrides, hhalved]

end Settings

end TypeMismatch
