import TypeMismatch.Proofs.Template.Set

/-!
# The history of a set

A set is made from an earlier one by steps, some of which fail.  What a step that succeeds brings is
known from the step alone (`Step.templates`, `Step.pairs`), and it is put on top of what is there
(`Step.apply_eq_ok`).  A run therefore puts together what its successful steps bring (`run_eq`), and
the steps that fail could as well be left out (`run_successes`).
-/

namespace TypeMismatch.TemplateSet

/-- A step that makes a new set from a set. -/
inductive Step where
  | register (name pattern labels : Json)
  | registerPattern (name : Json) (pattern : Pattern) (labels : Json)
  | withCodes (codes : List (Json × Json))

def Step.apply (platform : Platform) (set : TemplateSet) : Step → Except Failure TemplateSet
  | .register name pattern labels => set.register platform name pattern labels
  | .registerPattern name pattern labels => set.registerPattern name pattern labels
  | .withCodes codes => set.withCodes codes

/-- Takes the steps one after another; one that fails leaves the set as it is. -/
def run (platform : Platform) (set : TemplateSet) : List Step → TemplateSet
  | [] => set
  | step :: rest =>
    match step.apply platform set with
    | .ok next => next.run platform rest
    | .error _ => set.run platform rest

/-- The steps of a run that do not fail. -/
def successes (platform : Platform) (set : TemplateSet) : List Step → List Step
  | [] => []
  | step :: rest =>
    match step.apply platform set with
    | .ok next => step :: next.successes platform rest
    | .error _ => set.successes platform rest

/-! ## What a step brings -/

/-- A template under its name, if it was built. -/
def built : Except Failure Template → Entries Template
  | .ok t => [(t.name, t)]
  | .error _ => []

def Step.templates (platform : Platform) : Step → Entries Template
  | .register name pattern labels => built (Template.ofJson platform name pattern labels)
  | .registerPattern name pattern labels => built (Template.ofPattern name pattern labels)
  | .withCodes _ => []

def Step.pairs : Step → Entries String
  | .withCodes codes => TemplateSet.pairs codes
  | _ => []

/-- The set with some templates and codes on top. -/
def putAll (set : TemplateSet) (templates : Entries Template) (codes : Entries String) :
    TemplateSet :=
  ⟨Entries.putAll set.templates templates, Entries.putAll set.codes codes⟩

variable {platform : Platform} {set next : TemplateSet} {step : Step} {steps : List Step}

theorem putAll_putAll (set : TemplateSet) (ts ts' : Entries Template) (cs cs' : Entries String) :
    (set.putAll ts cs).putAll ts' cs' = set.putAll (ts ++ ts') (cs ++ cs') := by
  rw [putAll, putAll, putAll, Entries.putAll_append, Entries.putAll_append]

theorem add_of_built {x : Except Failure Template}
    (h : (x >>= fun t => pure (set.add t)) = .ok next) : next = set.putAll (built x) [] := by
  obtain ⟨t, rfl, ht⟩ := bind_eq_ok_iff.1 h
  exact (Except.ok.inj ht).symm

theorem Step.apply_eq_ok (h : step.apply platform set = .ok next) :
    next = set.putAll (step.templates platform) step.pairs := by
  cases step with
  | register name pattern labels => exact add_of_built h
  | registerPattern name pattern labels => exact add_of_built h
  | withCodes codes => exact (withCodes_eq_ok_iff.1 h).2

theorem WellFormed.apply (h : set.WellFormed) (hstep : step.apply platform set = .ok next) :
    next.WellFormed := by
  cases step with
  | register name pattern labels =>
    obtain ⟨t, -, ht⟩ := bind_eq_ok_iff.1 hstep
    rw [← Except.ok.inj ht]
    exact h.add t
  | registerPattern name pattern labels =>
    obtain ⟨t, -, ht⟩ := bind_eq_ok_iff.1 hstep
    rw [← Except.ok.inj ht]
    exact h.add t
  | withCodes codes => exact h.withCodes hstep

/-! ## Runs -/

theorem run_append (set : TemplateSet) (before after : List Step) :
    set.run platform (before ++ after) = (set.run platform before).run platform after := by
  induction before generalizing set with
  | nil => rfl
  | cons step before ih =>
    rw [List.cons_append, run, run]
    split
    · exact ih _
    · exact ih _

theorem WellFormed.run (h : set.WellFormed) (platform : Platform) (steps : List Step) :
    (set.run platform steps).WellFormed := by
  induction steps generalizing set with
  | nil => exact h
  | cons step steps ih =>
    rw [TemplateSet.run]
    split
    · next hstep => exact ih (h.apply hstep)
    · exact ih h

/-- A run puts what its successful steps bring on top of the set. -/
theorem run_eq (platform : Platform) (set : TemplateSet) (steps : List Step) :
    set.run platform steps =
      set.putAll ((set.successes platform steps).flatMap (Step.templates platform))
        ((set.successes platform steps).flatMap Step.pairs) := by
  induction steps generalizing set with
  | nil => rfl
  | cons step steps ih =>
    rw [run, successes]
    split
    · next hstep =>
      rw [ih, Step.apply_eq_ok hstep, putAll_putAll, List.flatMap_cons, List.flatMap_cons]
    · exact ih set

/-- The steps that fail can be left out, and the others succeed without them. -/
theorem run_successes (platform : Platform) (set : TemplateSet) (steps : List Step) :
    set.run platform (set.successes platform steps) = set.run platform steps ∧
      set.successes platform (set.successes platform steps) = set.successes platform steps := by
  induction steps generalizing set with
  | nil => exact ⟨rfl, rfl⟩
  | cons step steps ih =>
    rw [run, successes]
    split
    · next next hstep =>
      obtain ⟨hrun, hsuccesses⟩ := ih next
      simp only [run, successes, hstep, hrun, hsuccesses, and_self]
    · exact ih set

theorem run_of_error {failure : Failure} (before after : List Step)
    (h : step.apply platform (set.run platform before) = .error failure) :
    set.run platform (before ++ step :: after) = set.run platform (before ++ after) := by
  rw [run_append, run_append, run, h]

/-- The set is made by steps from the empty or the standard one, on some platform. -/
def Reachable (set : TemplateSet) : Prop :=
  ∃ platform start steps, (start = empty ∨ start = Standard.templates) ∧
    set = start.run platform steps

theorem wellFormed_of_start {start : TemplateSet}
    (h : start = empty ∨ start = Standard.templates) : start.WellFormed := by
  rcases h with rfl | rfl
  · exact wellFormed_empty
  · exact wellFormed_standard

theorem Reachable.wellFormed (h : set.Reachable) : set.WellFormed := by
  obtain ⟨platform, start, steps, hstart, rfl⟩ := h
  exact (wellFormed_of_start hstart).run platform steps

/-- **A set is determined by the successful steps of its history.**  Names stand in the order in
which they were first registered and have the template registered last, codes in the order in which
they were first mapped and have the name given last.  Leaving out the steps that fail changes
nothing. -/
theorem run_eq_last_of_successes (platform : Platform) {start : TemplateSet}
    (hstart : start = empty ∨ start = Standard.templates) (steps : List Step) :
    let done := start.successes platform steps
    let final := start.run platform steps
    let registered := done.flatMap (Step.templates platform)
    let mapped := done.flatMap Step.pairs
    (final.names = (start.names ++ Entries.names registered).eraseDups ∧
      ∀ name, final.get? name =
        (Entries.get? name registered.reverse).or (start.get? name)) ∧
    (Entries.names final.codes =
        (Entries.names start.codes ++ Entries.names mapped).eraseDups ∧
      ∀ key, Entries.get? key final.codes =
        (Entries.get? key mapped.reverse).or (Entries.get? key start.codes)) ∧
    (∀ name t, final.get? name = some t → t.name = name) ∧
    (start.run platform done = final ∧ start.successes platform done = done) ∧
    ∀ before step after failure, steps = before ++ step :: after →
      step.apply platform (start.run platform before) = .error failure →
        final = start.run platform (before ++ after) := by
  intro done final registered mapped
  have hwell := wellFormed_of_start hstart
  have hfinal : final = start.putAll registered mapped := run_eq platform start steps
  refine ⟨⟨?_, ?_⟩, ⟨?_, ?_⟩, ?_, run_successes platform start steps, ?_⟩
  · rw [hfinal]
    exact Entries.names_putAll hwell.names registered
  · intro name
    rw [hfinal]
    exact Entries.get?_putAll name start.templates registered
  · rw [hfinal]
    exact Entries.names_putAll hwell.codes mapped
  · intro key
    rw [hfinal]
    exact Entries.get?_putAll key start.codes mapped
  · intro name t ht
    exact (hwell.run platform steps).name_of_get? ht
  · rintro before step after failure rfl herror
    exact run_of_error before after herror

/-- A replaced template keeps its place, two spellings of one code meet, and of the codes that come
with a wrong one none is taken. -/
theorem run_eq_last_of_successes_with_failures :
    let steps : List Step :=
      [.register (.string "pair") (.string "L (.+) R (.+)") (.array [.string "L:", .string "R:"]),
        .withCodes [(.string "TS2345", .string "pair"), (.int 2339, .string "missing")],
        .register (.string "property") (.string "P (.+)") (.array [.string "P:", .string "Q:"]),
        .register (.string "property") (.string "P (.+) Q (.+)")
          (.array [.string "P:", .string "Q:"]),
        .withCodes [(.string " ts9 ", .string "pair"), (.int 2322, .string "pair"),
          (.string "9", .string "property")]]
    let final := Standard.templates.run Platform.bare steps
    final.names = ["overload", "parameter", "missing_props", "property", "assignability",
        "return_mismatch", "pair"] ∧
      (final.get? "property").map Template.labels = some ⟨"P:", "Q:"⟩ ∧
      Entries.names final.codes = ["2322", "2345", "2339", "2741", "2416", "2769", "9"] ∧
      Entries.get? "2345" final.codes = some "parameter" ∧
      Entries.get? "2322" final.codes = some "pair" ∧
      Entries.get? "9" final.codes = some "property" := by
  intro steps
  obtain ⟨⟨hnames, htemplate⟩, ⟨hkeys, hcode⟩, -⟩ :=
    run_eq_last_of_successes Platform.bare (.inr rfl) steps
  rw [Standard.templates_eq] at hnames htemplate hkeys hcode ⊢
  intro final
  refine ⟨hnames.trans (by decide +kernel), ?_, hkeys.trans (by decide +kernel),
    (hcode _).trans (by decide +kernel), (hcode _).trans (by decide +kernel),
    (hcode _).trans (by decide +kernel)⟩
  rw [show final.get? "property" = _ from htemplate "property"]
  decide +kernel

end TypeMismatch.TemplateSet
