import TypeMismatch.Diagnostic
import TypeMismatch.Proofs.Template.Priority

/-!
# Answers on the same diagnostics

The readable form, the hover and the hint all look for the types of a diagnostic on their own.
What they find is the same (`exists_mismatch?_iff`), so they are about the same diagnostics: those
that are recognized, and among them the first (`answers_agree`).
-/

namespace TypeMismatch.Diagnostic

variable {s : Settings} {d : Diagnostic} {m : Mismatch}

/-- An error of the compiler whose message is matched by a template. -/
structure Recognized (s : Settings) (d : Diagnostic) : Prop where
  compilerError : d.isCompilerError = true
  matched : ∃ t ∈ Entries.values s.templates.templates, t.match? d.message ≠ none

theorem exists_mismatch?_iff (hnames : s.templates.names.Nodup) (d : Diagnostic) :
    (∃ m, d.mismatch? s = some m) ↔ Recognized s d := by
  have hfind : (∃ m, Rendering.find? s d.message d.code = some m) ↔
      ∃ t ∈ Entries.values s.templates.templates, t.match? d.message ≠ none := by
    rw [← Option.ne_none_iff_exists', Ne, Rendering.find?, Mismatch.ofMessage?_eq_none_iff hnames]
    simp
  unfold mismatch?
  cases herror : d.isCompilerError with
  | false => exact iff_of_false (by simp) fun h => absurd (herror.symm.trans h.compilerError) nofun
  | true => exact hfind.trans ⟨fun h => ⟨herror, h⟩, fun h => h.matched⟩

theorem mismatch?_eq_none_iff (hnames : s.templates.names.Nodup) (d : Diagnostic) :
    d.mismatch? s = none ↔ ¬ Recognized s d := by
  rw [← exists_mismatch?_iff hnames, ← Option.ne_none_iff_exists', not_not]

theorem find?_of_mismatch? (h : d.mismatch? s = some m) :
    d.isCompilerError = true ∧ Rendering.find? s d.message d.code = some m := by
  unfold mismatch? at h
  split at h
  · next herror => exact ⟨herror, h⟩
  · cases h

theorem prettify_of_mismatch? (h : d.mismatch? s = some m) :
    prettify s d = { d with message := Rendering.prettify s d.message d.code } := by
  rw [prettify, prettified?, h, Rendering.prettify, (find?_of_mismatch? h).2]
  rfl

theorem prettify_of_no_mismatch (h : d.mismatch? s = none) : prettify s d = d := by
  rw [prettify, prettified?, h]
  rfl

theorem inLines_fenced (block : String) :
    Rendering.inLines [fence, block, fence] = fence ++ "\n" ++ block ++ "\n" ++ fence := by
  rw [← String.toList_inj]
  simp [Rendering.inLines, Text.joinWith]

/-- With the preview on, a hint is looked for just as a hover is. -/
theorem hint?_eq (hpreview : s.showPreview = true) (ds : List Diagnostic) :
    hint? s ds = ds.findSome? fun d => (d.mismatch? s).map fun m =>
      Rendering.previewMark ++ Summary.summarize m.expected := by
  unfold hint?
  congr 1
  funext d
  unfold mismatch? Rendering.preview?
  rw [if_pos hpreview]
  split <;> rfl

theorem hint?_eq_none (hpreview : s.showPreview = false) (ds : List Diagnostic) :
    hint? s ds = none := by
  rw [hint?, List.findSome?_eq_none_iff]
  intro d _
  split
  · rw [Rendering.preview?, if_neg (by simp [hpreview])]
  · rfl

section First

variable {α : Type} {show? : Diagnostic → Mismatch → α}

/-- Something is shown for a list exactly if one of its diagnostics is recognized. -/
theorem exists_shown_iff (hnames : s.templates.names.Nodup) (ds : List Diagnostic) :
    (∃ a, (ds.findSome? fun d => (d.mismatch? s).map (show? d)) = some a) ↔
      ∃ d ∈ ds, Recognized s d := by
  simp only [← exists_mismatch?_iff hnames, ← Option.ne_none_iff_exists', Ne,
    List.findSome?_eq_none_iff, Option.map_eq_none_iff]
  push Not
  rfl

/-- It is shown for the first one. -/
theorem shown_of_first (hnames : s.templates.names.Nodup) {before after : List Diagnostic}
    (hbefore : ∀ e ∈ before, ¬ Recognized s e) (h : d.mismatch? s = some m) :
    ((before ++ d :: after).findSome? fun d => (d.mismatch? s).map (show? d)) =
      some (show? d m) := by
  have hnone : (before.findSome? fun d => (d.mismatch? s).map (show? d)) = none := by
    rw [List.findSome?_eq_none_iff]
    intro e he
    rw [(mismatch?_eq_none_iff hnames e).2 (hbefore e he)]
    rfl
  rw [List.findSome?_append, hnone, Option.none_or, List.findSome?_cons, h]
  rfl

end First

/-- **The answers for a list are about the same diagnostics.**  Each diagnostic is shown in its
place with nothing but its message changed, and the message only if the diagnostic is recognized, to
that of the readable form.  A hover is shown exactly if one is recognized, and it is over the first
of them with its readable message; with the preview on, the same goes for a hint, with the expected
type of that message. -/
theorem answers_agree (hnames : s.templates.names.Nodup) (ds : List Diagnostic) :
    List.Forall₂ (fun d shown => { shown with message := d.message } = d ∧
        (Recognized s d → shown.message = Rendering.prettify s d.message d.code) ∧
        (¬ Recognized s d → shown.message = d.message)) ds (prettifyAll s ds) ∧
      ((∃ hover, hover? s ds = some hover) ↔ ∃ d ∈ ds, Recognized s d) ∧
      (s.showPreview = true →
        ((∃ hint, hint? s ds = some hint) ↔ ∃ hover, hover? s ds = some hover)) ∧
      (s.showPreview = false → hint? s ds = none) ∧
      ∀ before d after, ds = before ++ d :: after → (∀ e ∈ before, ¬ Recognized s e) →
        Recognized s d →
          hover? s ds =
              some ⟨fence ++ "\n" ++ (prettify s d).message ++ "\n" ++ fence, d.range⟩ ∧
            ∃ m, Mismatch.ofMessage? s.templates d.message d.code = some m ∧
              (s.showPreview = true →
                hint? s ds = some (Rendering.previewMark ++ Summary.summarize m.expected)) := by
  refine ⟨?_, exists_shown_iff hnames ds, ?_, fun h => hint?_eq_none h ds, ?_⟩
  · rw [prettifyAll, List.forall₂_map_right_iff, List.forall₂_same]
    intro d _
    cases h : d.mismatch? s with
    | some m =>
      rw [prettify_of_mismatch? h]
      exact ⟨rfl, fun _ => rfl, fun hnot => absurd ((exists_mismatch?_iff hnames d).1 ⟨m, h⟩) hnot⟩
    | none =>
      rw [prettify_of_no_mismatch h]
      exact ⟨rfl, fun hd => absurd hd ((mismatch?_eq_none_iff hnames d).1 h), fun _ => rfl⟩
  · intro hpreview
    rw [hint?_eq hpreview, exists_shown_iff hnames]
    exact (exists_shown_iff hnames ds).symm
  · rintro before d after rfl hbefore hd
    obtain ⟨m, hm⟩ := (exists_mismatch?_iff hnames d).2 hd
    have hfound := (find?_of_mismatch? hm).2
    refine ⟨?_, m, hfound, ?_⟩
    · rw [hover?, shown_of_first hnames hbefore hm, inLines_fenced, prettify_of_mismatch? hm,
        Rendering.prettify, hfound]
    · intro hpreview
      rw [hint?_eq hpreview, shown_of_first hnames hbefore hm]

/-- A warning, an error of another source and an error without types come before two errors with
types: the hover and the hint are about the first of the two. -/
theorem answers_agree_behind_others :
    let d : Diagnostic := ⟨⟨1, 2, 1, 9⟩, "Type 'a' is not assignable to type 'b'.", some 1,
      .string "TS2322", some "TypeScript", .null, .null, .null, .null⟩
    let before := [{ d with severity := some 2 }, { d with source := some "eslint" },
      { d with message := "Cannot find name 'b'." }]
    let after := [{ d with
      range := ⟨5, 0, 5, 1⟩, message := "Type 'x' is not assignable to type 'y'." }]
    let s := Settings.standard
    let ds := before ++ d :: after
    Recognized s d ∧ (∀ e ∈ before, ¬ Recognized s e) ∧
      hover? s ds = some ⟨fence ++ "\n" ++ (prettify s d).message ++ "\n" ++ fence, ⟨1, 2, 1, 9⟩⟩ ∧
      hint? s ds = some "  ⮕ Expected: b" := by
  intro d before after s ds
  have hnames : s.templates.names.Nodup := TemplateSet.wellFormed_standard.names
  have hset : s.templates.templates = _ := congrArg TemplateSet.templates Standard.templates_eq
  have hmatched : ∃ t ∈ Entries.values s.templates.templates, t.match? d.message ≠ none := by
    rw [hset]
    decide +kernel
  have hother : ∀ t ∈ Entries.values s.templates.templates,
      t.match? "Cannot find name 'b'." = none := by
    rw [hset]
    decide +kernel
  have hd : Recognized s d := ⟨by decide +kernel, hmatched⟩
  have hbefore : ∀ e ∈ before, ¬ Recognized s e := by
    intro e he
    simp only [before, List.mem_cons, List.not_mem_nil, or_false] at he
    rcases he with rfl | rfl | rfl
    · exact fun h => absurd h.compilerError (by decide +kernel)
    · exact fun h => absurd h.compilerError (by decide +kernel)
    · rintro ⟨-, t, ht, hmatch⟩
      exact hmatch (hother t ht)
  obtain ⟨-, -, -, -, hfirst⟩ := answers_agree hnames ds
  obtain ⟨hhover, m, hm, hhint⟩ := hfirst before d after rfl hbefore hd
  have hexpected : m.expected = "b" := by
    have hfound : (Mismatch.ofMessage? s.templates d.message d.code).map Mismatch.expected =
        some "b" := by
      show (Mismatch.ofMessage? Standard.templates _ _).map _ = _
      rw [Standard.templates_eq]
      decide +kernel
    rw [hm] at hfound
    exact Option.some.inj hfound
  refine ⟨hd, hbefore, hhover, ?_⟩
  rw [hhint rfl, hexpected]
  decide +kernel

end TypeMismatch.Diagnostic
