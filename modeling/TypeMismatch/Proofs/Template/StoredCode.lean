import TypeMismatch.Proofs.Template.Validity

/-!
# Looking up stored codes

A set stores codes in normal form, however it was made (`Reachable.normal`).  A stored code is
looked up in its own normal form, so it is found under itself if it is settled, that is if nothing
in front of it is taken off once more (`forCode?_stored_iff`).
-/

namespace TypeMismatch.TemplateSet

variable {set : TemplateSet} {name : String}

theorem Step.normal_of_pairs (step : Step) : ∀ entry ∈ step.pairs, Code.IsNormal entry.1 := by
  cases step with
  | withCodes codes => exact TemplateSet.normal_of_pairs
  | _ => exact nofun

/-- The codes of a set are normal forms, however it was made. -/
theorem Reachable.normal (h : set.Reachable) : ∀ entry ∈ set.codes, Code.IsNormal entry.1 := by
  obtain ⟨platform, start, steps, hstart, rfl⟩ := h
  rw [run_eq]
  intro entry hentry
  rcases Entries.mem_putAll hentry with hentry | hentry
  · rcases hstart with rfl | rfl
    · cases hentry
    · exact (valid_standard platform).normal entry hentry
  · obtain ⟨step, -, hpair⟩ := List.mem_flatMap.1 hentry
    exact step.normal_of_pairs entry hpair

/-- A code asks for the template under a name if its normal form is mapped to that name. -/
theorem WellFormed.forCode?_eq_some_iff (h : set.WellFormed) {code : Json} {t : Template}
    (ht : set.get? name = some t) :
    set.forCode? code = some t ↔
      ∃ key, Code.normalize? code = some key ∧ (key, name) ∈ set.codes := by
  simp only [forCode?, nameForCode?, bind, Option.bind_eq_some_iff]
  constructor
  · rintro ⟨found, ⟨key, hkey, hfound⟩, htemplate⟩
    -- a template stands under its own name only
    obtain rfl : found = name := (h.name_of_get? htemplate).symm.trans (h.name_of_get? ht)
    exact ⟨key, hkey, Entries.mem_of_get? hfound⟩
  · rintro ⟨key, hkey, hmapped⟩
    exact ⟨name, ⟨key, hkey, Entries.get?_of_mem h.codes hmapped⟩, ht⟩

/-- **A stored code is found under itself if it is settled.**  The normal form of a code is its own
normal form exactly if neither a blank nor the two letters stand in front of it.  A set maps such a
form to the template that it looks up for it; any other form is looked up by what is left of it, and
leads to the same template only if that is mapped to the same name. -/
theorem forCode?_stored_iff (hset : set.Reachable) :
    (∀ code key, Code.normalize? code = some key →
      (Code.normalize? (.string key) = some key ↔ Code.Settled key.toList)) ∧
    ∀ key name, (key, name) ∈ set.codes → ∃ t, set.get? name = some t ∧
      (set.forCode? (.string key) = some t ↔ Code.Settled key.toList ∨
        ∃ left, Code.normalize? (.string key) = some left ∧ (left, name) ∈ set.codes) := by
  refine ⟨fun code key => Code.normalize?_self_iff, ?_⟩
  intro key name hmapped
  obtain ⟨t, ht⟩ := Entries.exists_get? (hset.wellFormed.known _ hmapped)
  obtain ⟨code, hcode⟩ := hset.normal _ hmapped
  refine ⟨t, ht, ?_⟩
  rw [hset.wellFormed.forCode?_eq_some_iff ht, or_iff_right_of_imp]
  intro hsettled
  exact ⟨key, (Code.normalize?_self_iff hcode).2 hsettled, hmapped⟩

/-- Three codes that leave something in front of their number: the first leads nowhere, the second
to another template than its own, and the third to its own by way of its number. -/
theorem forCode?_stored_iff_of_spaced_codes :
    let set := Standard.templates.run Platform.bare
      [.withCodes [(.string "TS 7", .string "property"), (.string "TSTS2322", .string "property"),
        (.string "TS 2345", .string "parameter")]]
    (" 7", "property") ∈ set.codes ∧ ¬ Code.Settled " 7".toList ∧
      (∃ t, set.get? "property" = some t ∧ set.forCode? (.string " 7") ≠ some t) ∧
      (∃ t, set.get? "property" = some t ∧ set.forCode? (.string "TS2322") ≠ some t) ∧
      (∃ t, set.get? "parameter" = some t ∧ set.forCode? (.string " 2345") = some t) ∧
      ∃ t, set.get? "assignability" = some t ∧ set.forCode? (.string "2322") = some t := by
  intro set
  have hset : set.Reachable := ⟨_, _, _, .inr rfl, rfl⟩
  obtain ⟨-, hlook⟩ := forCode?_stored_iff hset
  have hcodes : set.codes = [("2322", "assignability"), ("2345", "parameter"),
      ("2339", "property"), ("2741", "missing_props"), ("2416", "return_mismatch"),
      ("2769", "overload"), (" 7", "property"), ("TS2322", "property"),
      (" 2345", "parameter")] := by
    show (Standard.templates.run Platform.bare _).codes = _
    rw [Standard.templates_eq]
    decide +kernel
  rw [hcodes] at hlook ⊢
  have hseven := hlook " 7" "property" (by decide)
  have hlettered := hlook "TS2322" "property" (by decide)
  have hspaced := hlook " 2345" "parameter" (by decide)
  have hplain := hlook "2322" "assignability" (by decide)
  have hleft : Code.normalize? (.string " 7") = some "7" := by decide +kernel
  have hnumber : Code.normalize? (.string "TS2322") = some "2322" := by decide +kernel
  have hparameter : Code.normalize? (.string " 2345") = some "2345" := by decide +kernel
  refine ⟨by decide, by decide, ?_, ?_, ?_, ?_⟩
  · obtain ⟨t, ht, hiff⟩ := hseven
    refine ⟨t, ht, ?_⟩
    rw [Ne, hiff, hleft]
    decide
  · obtain ⟨t, ht, hiff⟩ := hlettered
    refine ⟨t, ht, ?_⟩
    rw [Ne, hiff, hnumber]
    decide
  · obtain ⟨t, ht, hiff⟩ := hspaced
    exact ⟨t, ht, hiff.2 (.inr ⟨_, hparameter, by decide⟩)⟩
  · obtain ⟨t, ht, hiff⟩ := hplain
    exact ⟨t, ht, hiff.2 (.inl (by decide))⟩

/-- A blank between the letters and the number stays in front of the stored code, under which the
code is not found then. -/
theorem forCode?_spaced_code_eq_none :
    Code.normalize? (.string "TS 7") = some " 7" ∧ Code.normalize? (.string " 7") = some "7" ∧
      (let set := Standard.templates.run Platform.bare
        [.withCodes [(.string "TS 7", .string "property")]]
       (" 7", "property") ∈ set.codes ∧ (set.get? "property").isSome ∧
        set.forCode? (.string " 7") = none) ∧
      (¬ ∀ code key, Code.normalize? code = some key → Code.normalize? (.string key) = some key) ∧
      ¬ ∀ set : TemplateSet, set.Reachable → ∀ key name, (key, name) ∈ set.codes →
        set.forCode? (.string key) = set.get? name := by
  have hspaced : Code.normalize? (.string "TS 7") = some " 7" := by decide +kernel
  have hleft : Code.normalize? (.string " 7") = some "7" := by decide +kernel
  have hset :
      let set := Standard.templates.run Platform.bare
        [.withCodes [(.string "TS 7", .string "property")]]
      (" 7", "property") ∈ set.codes ∧ (set.get? "property").isSome ∧
        set.forCode? (.string " 7") = none := by
    rw [Standard.templates_eq]
    decide +kernel
  refine ⟨hspaced, hleft, hset, ?_, ?_⟩
  · intro hall
    have hself := hall _ _ hspaced
    rw [hleft] at hself
    exact absurd hself (by decide)
  · intro hall
    obtain ⟨hmapped, hknown, hlost⟩ := hset
    rw [← hall _ ⟨_, _, _, .inr rfl, rfl⟩ _ _ hmapped, hlost] at hknown
    cases hknown

end TypeMismatch.TemplateSet
