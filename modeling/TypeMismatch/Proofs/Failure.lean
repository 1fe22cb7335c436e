import TypeMismatch.Failure

/-!
# Outcomes

An outcome is *answered* when it is a value or a failure with a report, one about settings or
templates; all other failures *raise*.  Steps in sequence raise where one of them does that is come
to (`raises_bind_iff`, `raises_foldlM_iff`), so a failure without a report can be traced back to the
step that makes it.  A file that is missing, and a string that gives half of a pair of code units,
are told apart from the other failures without a report: they come from reading only (`Unread`).
-/

namespace TypeMismatch

theorem bind_eq_ok_iff {ε α β : Type} {x : Except ε α} {f : α → Except ε β} {b : β} :
    x >>= f = .ok b ↔ ∃ a, x = .ok a ∧ f a = .ok b := by
  cases x with
  | error failure =>
    constructor
    · intro h
      cases h
    · rintro ⟨a, ha, -⟩
      cases ha
  | ok a =>
    constructor
    · intro h
      exact ⟨a, rfl, h⟩
    · rintro ⟨a', ha, h⟩
      rwa [Except.ok.inj ha]

theorem bind_eq_error_iff {ε α β : Type} {x : Except ε α} {f : α → Except ε β} {e : ε} :
    x >>= f = .error e ↔ x = .error e ∨ ∃ a, x = .ok a ∧ f a = .error e := by
  cases x with
  | error failure =>
    refine ⟨fun h => .inl (congrArg _ (Except.error.inj h)), ?_⟩
    rintro (h | ⟨a, ha, -⟩)
    · exact congrArg _ (Except.error.inj h)
    · cases ha
  | ok a =>
    constructor
    · intro h
      exact .inr ⟨a, rfl, h⟩
    · rintro (h | ⟨a', ha, h⟩)
      · cases h
      · rwa [Except.ok.inj ha]

theorem exists_of_toOption {ε α β : Type} {x : Except ε α} {f : α → β} {b : β}
    (h : x.toOption.map f = some b) : ∃ a, x = .ok a ∧ f a = b := by
  cases x with
  | error failure => cases h
  | ok a => exact ⟨a, rfl, Option.some.inj h⟩

theorem eq_ok_of_toOption {ε α : Type} {x : Except ε α} {a : α} (h : x.toOption = some a) :
    x = .ok a := by
  cases x with
  | error e => cases h
  | ok a' => rw [Option.some.inj h]

theorem eq_error_of_match {ε α : Type} {x : Except ε α} {e : ε}
    (h : (match x with | .error e => some e | .ok _ => none) = some e) : x = .error e := by
  cases x with
  | error e' => rw [Option.some.inj h]
  | ok a => cases h

/-- A value, or a failure that concerns settings or templates. -/
inductive Answered {α : Type} : Except Failure α → Prop
  | value (a : α) : Answered (.ok a)
  | setting (option : Option String) (fault : SettingFault) :
      Answered (.error (.setting option fault))
  | template (name : Option String) (fault : TemplateFault) :
      Answered (.error (.template name fault))

/-- A failure without a report. -/
inductive Raises {α : Type} : Except Failure α → Prop
  | failure {failure : Failure} (unreported : failure.report? = none) : Raises (.error failure)

variable {α β : Type}

theorem answered_iff_not_raises {x : Except Failure α} : Answered x ↔ ¬ Raises x := by
  constructor
  · rintro (_ | _ | _) ⟨⟨⟩⟩
  · intro h
    cases x with
    | ok a => exact .value a
    | error failure =>
      cases failure with
      | template name fault => exact .template name fault
      | setting option fault => exact .setting option fault
      | _ => exact absurd (.failure rfl) h

theorem not_raises_ok (a : α) : ¬ Raises (.ok a : Except Failure α) := nofun

theorem not_raises_template (name : Option String) (fault : TemplateFault) :
    ¬ Raises (.error (.template name fault) : Except Failure α) := by
  rintro ⟨⟨⟩⟩

theorem not_raises_setting (option : Option String) (fault : SettingFault) :
    ¬ Raises (.error (.setting option fault) : Except Failure α) := by
  rintro ⟨⟨⟩⟩

theorem raises_error_iff {failure : Failure} :
    Raises (.error failure : Except Failure α) ↔ failure.report? = none := by
  constructor
  · rintro ⟨h⟩
    exact h
  · exact .failure

theorem raises_bind_iff {x : Except Failure α} {f : α → Except Failure β} :
    Raises (x >>= f) ↔ Raises x ∨ ∃ a, x = .ok a ∧ Raises (f a) := by
  cases x with
  | error failure =>
    have hfailed : (Except.error failure >>= f) = .error failure := rfl
    rw [hfailed, raises_error_iff, raises_error_iff]
    exact ⟨.inl, fun h => h.resolve_right nofun⟩
  | ok a =>
    constructor
    · intro h
      exact .inr ⟨a, rfl, h⟩
    · rintro (⟨⟨⟩⟩ | ⟨_, ⟨⟩, h⟩)
      exact h

theorem raises_map_iff {x : Except Failure α} {f : α → β} :
    Raises (x >>= fun a => pure (f a)) ↔ Raises x := by
  rw [raises_bind_iff, or_iff_left]
  rintro ⟨a, -, h⟩
  exact not_raises_ok _ h

theorem not_raises_bind {x : Except Failure α} {f : α → Except Failure β} (hx : ¬ Raises x)
    (hf : ∀ a, ¬ Raises (f a)) : ¬ Raises (x >>= f) := by
  rw [raises_bind_iff]
  rintro (h | ⟨a, -, h⟩)
  · exact hx h
  · exact hf a h

/-- A loop raises in one of its rounds, after all rounds before. -/
theorem raises_foldlM_iff {f : β → α → Except Failure β} {xs : List α} {s : β} :
    Raises (xs.foldlM f s) ↔
      ∃ before x after m, xs = before ++ x :: after ∧ before.foldlM f s = .ok m ∧
        Raises (f m x) := by
  induction xs generalizing s with
  | nil =>
    constructor
    · intro h
      exact absurd h (not_raises_ok s)
    · rintro ⟨before, x, after, m, h, -⟩
      simp at h
  | cons x xs ih =>
    rw [List.foldlM_cons, raises_bind_iff]
    constructor
    · rintro (hx | ⟨s', hs', hrest⟩)
      · exact ⟨[], x, xs, s, rfl, rfl, hx⟩
      · obtain ⟨before, y, after, m, hsplit, hm, hy⟩ := ih.1 hrest
        refine ⟨x :: before, y, after, m, ?_, ?_, hy⟩
        · rw [hsplit, List.cons_append]
        · rw [List.foldlM_cons, bind_eq_ok_iff]
          exact ⟨s', hs', hm⟩
    · rintro ⟨before, y, after, m, hsplit, hm, hy⟩
      cases before with
      | nil =>
        obtain ⟨rfl, rfl⟩ := List.cons.inj hsplit
        cases hm
        exact .inl hy
      | cons z before =>
        obtain ⟨rfl, rfl⟩ := List.cons.inj hsplit
        rw [List.foldlM_cons, bind_eq_ok_iff] at hm
        obtain ⟨s', hs', hm⟩ := hm
        exact .inr ⟨s', hs', ih.2 ⟨before, y, after, m, rfl, hm, hy⟩⟩

/-! ## Failures of reading -/

/-- A file, or a string in its text, was not read. -/
inductive Unread {α : Type} : Except Failure α → Prop
  | file (fault : FileFault) : Unread (.error (.file fault))
  | loneSurrogate : Unread (.error .loneSurrogate)

section Unread

variable {α β : Type}

theorem not_unread_of_not_raises {x : Except Failure α} (h : ¬ Raises x) : ¬ Unread x := by
  rintro (fault | _)
  · exact h (.failure rfl)
  · exact h (.failure rfl)

theorem not_unread_bind {x : Except Failure α} {f : α → Except Failure β} (hx : ¬ Unread x)
    (hf : ∀ a, ¬ Unread (f a)) : ¬ Unread (x >>= f) := by
  cases x with
  | error failure =>
    rintro (fault | _)
    · exact hx (.file fault)
    · exact hx .loneSurrogate
  | ok a => exact hf a

theorem not_unread_map {x : Except Failure α} (hx : ¬ Unread x) (f : α → β) :
    ¬ Unread (x >>= fun a => pure (f a)) :=
  not_unread_bind hx fun _ => nofun

theorem not_unread_foldlM {f : β → α → Except Failure β} (hf : ∀ s x, ¬ Unread (f s x))
    (xs : List α) (s : β) : ¬ Unread (xs.foldlM f s) := by
  induction xs generalizing s with
  | nil => exact nofun
  | cons x xs ih =>
    rw [List.foldlM_cons]
    exact not_unread_bind (hf s x) ih

end Unread

end TypeMismatch
