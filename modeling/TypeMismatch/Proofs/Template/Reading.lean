import TypeMismatch.Proofs.Failure
import TypeMismatch.Template

/-!
# Reading a template

Names, patterns and labels are read one after another, and whatever is no template is refused with a
report.  Two steps are not guarded: a pattern may be beyond the limits of patterns, and labels may be
a value that has no length or no first two items (`raises_ofJson_iff`).
-/

namespace TypeMismatch.Template

variable {platform : Platform} {name : String} {value pattern labels : Json} {p : Pattern}

/-- A value without a length, or an object that is long enough but has no first items. -/
inductive Unsliced : Json → Prop
  | bool (b : Bool) : Unsliced (.bool b)
  | int (n : Int) : Unsliced (.int n)
  | float (x : Float) : Unsliced (.float x)
  | object (first second : String × Json) (rest : List (String × Json)) :
      Unsliced (.object (first :: second :: rest))

/-- A refusal that is no fault of the text. -/
def IsLimit (refusal : Pattern.Refusal) : Prop := ∀ cause position, refusal ≠ .fault cause position

/-- The pattern and the labels of a template that reach a step without a guard. -/
inductive Unguarded (platform : Platform) : Json → Json → Prop
  | pattern {source : String} {refusal : Pattern.Refusal} (labels : Json) (given : source ≠ "")
      (refused : Pattern.compileOn platform source = .error refusal) (limit : IsLimit refusal) :
      Unguarded platform (.string source) labels
  | labels {source : String} {pattern : Pattern} {labels : Json} (given : source ≠ "")
      (compiled : Pattern.compileOn platform source = .ok pattern)
      (groups : pattern.groups = requiredGroups) (unsliced : Unsliced labels) :
      Unguarded platform (.string source) labels

theorem checkName_string (h : name ≠ "") : checkName (.string name) = .ok name := by
  rw [checkName, if_neg (by simpa using h)]

theorem readPattern_string {source : String} (h : source ≠ "")
    (hcompiled : Pattern.compileOn platform source = .ok p) :
    readPattern platform name (.string source) = .ok p := by
  rw [readPattern, if_neg (by simpa using h), hcompiled]

theorem readPattern_eq_ok (h : readPattern platform name value = .ok p) :
    ∃ source, value = .string source ∧ source ≠ "" ∧
      Pattern.compileOn platform source = .ok p := by
  unfold readPattern at h
  split at h
  · cases h
  · next source =>
    split at h
    · cases h
    · next hempty =>
      split at h
      · next hcompiled =>
        cases h
        exact ⟨source, rfl, by simpa using hempty, hcompiled⟩
      · cases h
      · cases h
  · cases h

theorem raises_readPattern_iff :
    Raises (readPattern platform name value) ↔
      ∃ source refusal, value = .string source ∧ source ≠ "" ∧
        Pattern.compileOn platform source = .error refusal ∧ IsLimit refusal := by
  unfold readPattern
  split
  · constructor
    · intro h
      exact absurd h (not_raises_template _ _)
    · rintro ⟨source, -, ⟨⟩, -⟩
  · next source =>
    by_cases hempty : source = ""
    · subst hempty
      constructor
      · intro h
        exact absurd h (not_raises_template _ _)
      · rintro ⟨_, _, ⟨⟩, hgiven, -⟩
        exact absurd rfl hgiven
    · rw [if_neg (by simpa using hempty)]
      split
      · next hcompiled =>
        constructor
        · exact nofun
        · rintro ⟨_, refusal, ⟨⟩, -, hrefused, -⟩
          rw [hcompiled] at hrefused
          cases hrefused
      · next cause position hfault =>
        constructor
        · intro h
          exact absurd h (not_raises_template _ _)
        · rintro ⟨_, refusal, ⟨⟩, -, hrefused, hlimit⟩
          rw [hfault] at hrefused
          exact absurd (Except.error.inj hrefused).symm (hlimit cause position)
      · next refusal hlimit hrefused =>
        refine ⟨fun _ => ⟨source, refusal, rfl, hempty, hrefused, ?_⟩, fun _ => .failure rfl⟩
        intro cause position heq
        exact hlimit cause position heq
  · next hstring =>
    constructor
    · intro h
      exact absurd h (not_raises_template _ _)
    · rintro ⟨source, -, hvalue, -⟩
      exact absurd hvalue (hstring source)

theorem not_raises_checkGroups : ¬ Raises (checkGroups name p) := by
  unfold checkGroups
  split
  · exact not_raises_ok _
  · exact not_raises_template _ _

theorem checkGroups_eq_ok_iff {done : Unit} :
    checkGroups name p = .ok done ↔ p.groups = requiredGroups := by
  unfold checkGroups
  split
  · next h => exact ⟨fun _ => h, fun _ => rfl⟩
  · next h => exact ⟨nofun, fun hgroups => absurd hgroups h⟩

theorem raises_readLabels_iff : Raises (readLabels name labels) ↔ Unsliced labels := by
  constructor
  · intro h
    cases labels with
    | bool b => exact .bool b
    | int n => exact .int n
    | float x => exact .float x
    | object members =>
      match members, h with
      | first :: second :: rest, _ => exact .object first second rest
    | null => exact absurd h (not_raises_template _ _)
    | string text => exact absurd h (not_raises_template _ _)
    | array items =>
      have hanswered : ¬ Raises (readLabels name (.array items)) := by
        unfold readLabels
        split
        · exact not_raises_template _ _
        · exact not_raises_template _ _
        · exact not_raises_ok _
        · exact not_raises_template _ _
        · exact not_raises_template _ _
        -- the other branches are not about arrays
        · contradiction
        · contradiction
        · next hitems _ _ => exact absurd rfl (hitems items)
      exact absurd h hanswered
  · rintro (_ | _ | _ | _) <;> exact .failure rfl

theorem raises_ofPattern_iff (hname : name ≠ "") :
    Raises (ofPattern (.string name) p labels) ↔ p.groups = requiredGroups ∧ Unsliced labels := by
  rw [ofPattern, checkName_string hname]
  show Raises (checkGroups name p >>= fun _ => readLabels name labels >>= fun labels =>
    pure (Template.mk name p labels)) ↔ _
  rw [raises_bind_iff, or_iff_right not_raises_checkGroups]
  simp only [checkGroups_eq_ok_iff, raises_map_iff, raises_readLabels_iff, exists_const]

/-- A template is read with a value or a report as the outcome, unless its pattern is beyond a limit
or its labels are looked for in a value that has no items. -/
theorem raises_ofJson_iff :
    Raises (ofJson platform (.string name) pattern labels) ↔
      name ≠ "" ∧ Unguarded platform pattern labels := by
  by_cases hname : name = ""
  · subst hname
    constructor
    · intro h
      exact absurd h (not_raises_template _ _)
    · rintro ⟨h, -⟩
      exact absurd rfl h
  · rw [ofJson, checkName_string hname]
    show Raises (readPattern platform name pattern >>= fun p =>
      ofPattern (.string name) p labels) ↔ _
    rw [raises_bind_iff, raises_readPattern_iff]
    constructor
    · rintro (⟨source, refusal, rfl, hgiven, hrefused, hlimit⟩ | ⟨p, hp, hlabels⟩)
      · exact ⟨hname, .pattern labels hgiven hrefused hlimit⟩
      · obtain ⟨source, rfl, hgiven, hcompiled⟩ := readPattern_eq_ok hp
        obtain ⟨hgroups, hunsliced⟩ := (raises_ofPattern_iff hname).1 hlabels
        exact ⟨hname, .labels hgiven hcompiled hgroups hunsliced⟩
    · rintro ⟨-, hunguarded⟩
      cases hunguarded with
      | pattern labels hgiven hrefused hlimit =>
        exact .inl ⟨_, _, rfl, hgiven, hrefused, hlimit⟩
      | labels hgiven hcompiled hgroups hunsliced =>
        refine .inr ⟨_, readPattern_string hgiven hcompiled, ?_⟩
        exact (raises_ofPattern_iff hname).2 ⟨hgroups, hunsliced⟩

theorem not_unread_ofJson (platform : Platform) (name pattern labels : Json) :
    ¬ Unread (ofJson platform name pattern labels) := by
  have hname : ∀ value, ¬ Unread (checkName value) := by
    intro value
    unfold checkName
    split
    · split <;> nofun
    · nofun
  have hpattern : ∀ name value, ¬ Unread (readPattern platform name value) := by
    intro name value
    unfold readPattern
    split
    · nofun
    · split
      · nofun
      · split <;> nofun
    · nofun
  have hlabels : ∀ name value, ¬ Unread (readLabels name value) := by
    intro name value
    unfold readLabels
    split <;> nofun
  refine not_unread_bind (hname _) fun found => not_unread_bind (hpattern _ _) fun p => ?_
  refine not_unread_bind (hname _) fun named => not_unread_bind ?_ fun _ => ?_
  · exact not_unread_of_not_raises not_raises_checkGroups
  · exact not_unread_map (hlabels _ _) _

end TypeMismatch.Template
