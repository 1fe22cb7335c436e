import TypeMismatch.Mismatch
import TypeMismatch.Proofs.Code
import TypeMismatch.Proofs.Pattern.Whole
import TypeMismatch.Proofs.Template.History
import TypeMismatch.Proofs.Template.Outline

/-!
# A code gives priority only

The template of a code is moved to the front of the others.  In a well formed set no other template
stands under its name, so nothing is lost and nothing tried twice: if it does not match, the others
are tried in the order of the set (`findSome?_candidates`).  All spellings of a code move the same
template.
-/

namespace TypeMismatch

namespace Template

open Pattern

variable {t : Template} {message a b : String}

/-- The types that are found are parts of the message. -/
theorem infix_of_match? (h : t.match? message = some (a, b)) :
    a.toList <:+: message.toList ∧ b.toList <:+: message.toList := by
  obtain ⟨place, hplace, ha, hb⟩ := match?_eq_some_iff.1 h
  rw [capturedText?_eq_some_iff] at ha hb
  exact ⟨captured?_infix_of_search hplace ha.1, captured?_infix_of_search hplace hb.1⟩

theorem match?_of_isEmpty (t : Template) (h : message.isEmpty = true) :
    t.match? message = none := by
  rw [Option.eq_none_iff_forall_ne_some]
  rintro ⟨a, b⟩ hmatch
  obtain ⟨place, -, ha, -⟩ := match?_eq_some_iff.1 hmatch
  have hmessage : message.toList = [] := by simpa using h
  have hinfix := (infix_of_match? hmatch).1
  rw [hmessage, List.infix_nil] at hinfix
  exact (capturedText?_eq_some_iff.1 ha).2 hinfix

end Template

namespace Mismatch

variable {set : TemplateSet} {message : String} {code : Json}

theorem ofTemplate?_eq_none_iff {t : Template} :
    ofTemplate? message t = none ↔ t.match? message = none :=
  Option.map_eq_none_iff

theorem findSome?_filter {α β : Type} {p : α → Bool} {f : α → Option β} {xs : List α}
    (h : ∀ x ∈ xs, p x = false → f x = none) : (xs.filter p).findSome? f = xs.findSome? f := by
  induction xs with
  | nil => rfl
  | cons x xs ih =>
    have hrest := ih fun y hy => h y (List.mem_cons_of_mem x hy)
    cases hx : p x with
    | true => rw [List.filter_cons_of_pos hx, List.findSome?_cons, List.findSome?_cons, hrest]
    | false =>
      rw [List.filter_cons_of_neg (by simp [hx]), hrest, List.findSome?_cons,
        h x List.mem_cons_self hx]

/-- The template of a code is one of the set. -/
theorem mem_of_forCode? {t : Template} (h : set.forCode? code = some t) :
    t ∈ Entries.values set.templates := by
  obtain ⟨name, -, ht⟩ := Option.bind_eq_some_iff.1 h
  exact List.mem_map_of_mem (f := (·.2)) (Entries.mem_of_get? ht)

/-- In a well formed set each code that is mapped asks for a template. -/
theorem exists_forCode? (h : set.WellFormed) {name : String}
    (hname : set.nameForCode? code = some name) :
    ∃ t, set.get? name = some t ∧ set.forCode? code = some t := by
  obtain ⟨key, -, hkey⟩ := Option.bind_eq_some_iff.1 hname
  obtain ⟨t, ht⟩ := Entries.exists_get? (h.known _ (Entries.mem_of_get? hkey))
  refine ⟨t, ht, ?_⟩
  rw [TemplateSet.forCode?, hname]
  exact ht

/-- The template of the code is tried first, then all templates in the order of the set. -/
theorem findSome?_candidates (h : set.WellFormed) (message : String) (code : Json) :
    (candidates set code).findSome? (ofTemplate? message) =
      ((set.forCode? code).bind (ofTemplate? message)).or
        ((Entries.values set.templates).findSome? (ofTemplate? message)) := by
  rw [candidates]
  cases hname : set.nameForCode? code with
  | none => simp [TemplateSet.forCode?, hname]
  | some name =>
    obtain ⟨t, ht, hcode⟩ := exists_forCode? h hname
    simp only [ht, hcode, Option.toList_some, List.singleton_append, List.findSome?_cons,
      Option.bind_some]
    cases hmatch : ofTemplate? message t with
    | some m => rfl
    | none =>
      -- what is left out of the others is the template that was tried already
      simp only [Entries.values, List.findSome?_map, Option.none_or]
      apply findSome?_filter
      intro entry hentry hother
      obtain ⟨other, t'⟩ := entry
      have hsame : other = name := by simpa using hother
      subst hsame
      have ht' := Entries.get?_of_mem h.names hentry
      rw [show set.get? other = some t' from ht', Option.some_inj] at ht
      rw [Function.comp_apply, ht, hmatch]

/-- Of an empty message nothing is read in any case. -/
theorem ofMessage?_eq (set : TemplateSet) (message : String) (code : Json) :
    ofMessage? set message code = (candidates set code).findSome? (ofTemplate? message) := by
  rw [ofMessage?]
  split
  · next hempty =>
    rw [eq_comm, List.findSome?_eq_none_iff]
    intro t _
    rw [ofTemplate?_eq_none_iff]
    exact t.match?_of_isEmpty hempty
  · rfl

/-- Whatever the code, the templates that are tried are those of the set. -/
theorem mem_candidates_iff (hnames : set.names.Nodup) (code : Json) {t : Template} :
    t ∈ candidates set code ↔ t ∈ Entries.values set.templates := by
  rw [candidates]
  cases set.nameForCode? code with
  | none => exact Iff.rfl
  | some name =>
    simp only [List.mem_append, Option.mem_toList, Entries.values, List.mem_map, List.mem_filter]
    constructor
    · rintro (ht | ⟨entry, ⟨hentry, -⟩, rfl⟩)
      · exact ⟨_, Entries.mem_of_get? ht, rfl⟩
      · exact ⟨entry, hentry, rfl⟩
    · rintro ⟨⟨other, t⟩, hentry, rfl⟩
      by_cases hother : other = name
      · subst hother
        exact .inl (Entries.get?_of_mem hnames hentry)
      · exact .inr ⟨_, ⟨hentry, by simpa using hother⟩, rfl⟩

/-- Nothing is found exactly if no template of the set matches. -/
theorem ofMessage?_eq_none_iff (hnames : set.names.Nodup) (message : String) (code : Json) :
    ofMessage? set message code = none ↔
      ∀ t ∈ Entries.values set.templates, t.match? message = none := by
  rw [ofMessage?_eq, List.findSome?_eq_none_iff]
  simp only [mem_candidates_iff hnames, ofTemplate?_eq_none_iff]

theorem forCode?_congr {other : Json} (h : Code.normalize? other = Code.normalize? code) :
    set.forCode? other = set.forCode? code := by
  rw [TemplateSet.forCode?, TemplateSet.nameForCode?, h]
  rfl

/-- **A code changes the order only.**  If its template matches the message, that match is the
result; else the result is that of no code, the first match in the order of the set.  So nothing is
found exactly if no template matches, and all spellings of a code have the same result. -/
theorem code_gives_priority_only (hset : set.Reachable) (message : String) (code : Json) :
    (∀ t actual expected, set.forCode? code = some t →
      t.match? message = some (actual, expected) →
        ofMessage? set message code = some ⟨t.name, t.labels, actual, expected⟩) ∧
    ((∀ t, set.forCode? code = some t → t.match? message = none) →
      ofMessage? set message code = ofMessage? set message .null) ∧
    ofMessage? set message .null =
      (Entries.values set.templates).findSome? (ofTemplate? message) ∧
    (ofMessage? set message code = none ↔
      ∀ t ∈ Entries.values set.templates, t.match? message = none) ∧
    (∀ other, Code.normalize? other = Code.normalize? code →
      ofMessage? set message other = ofMessage? set message code) ∧
    ∀ n other, Code.Spells n code → Code.Spells n other →
      ofMessage? set message other = ofMessage? set message code := by
  have hsplit : ∀ code, ofMessage? set message code =
      ((set.forCode? code).bind (ofTemplate? message)).or
        ((Entries.values set.templates).findSome? (ofTemplate? message)) := by
    intro code
    rw [ofMessage?_eq, findSome?_candidates hset.wellFormed]
  have hnull : ofMessage? set message .null =
      (Entries.values set.templates).findSome? (ofTemplate? message) := hsplit .null
  have hcongr : ∀ other, Code.normalize? other = Code.normalize? code →
      ofMessage? set message other = ofMessage? set message code := by
    intro other h
    rw [hsplit, hsplit, forCode?_congr h]
  refine ⟨?_, ?_, hnull, ?_, hcongr, ?_⟩
  · intro t actual expected ht hmatch
    rw [hsplit, ht, Option.bind_some, ofTemplate?, hmatch]
    rfl
  · intro hcode
    have hfirst : (set.forCode? code).bind (ofTemplate? message) = none := by
      rw [Option.bind_eq_none_iff]
      intro t ht
      exact ofTemplate?_eq_none_iff.2 (hcode t ht)
    rw [hsplit, hfirst, hnull, Option.none_or]
  · simp only [hsplit, Option.or_eq_none_iff, Option.bind_eq_none_iff, List.findSome?_eq_none_iff,
      ofTemplate?_eq_none_iff]
    constructor
    · exact And.right
    · intro hall
      exact ⟨fun t ht => hall t (mem_of_forCode? ht), hall⟩
  · intro n other hcode hother
    exact hcongr other (hother.normalize?_eq.trans hcode.normalize?_eq.symm)

/-- The template of the mapped code is tried before an earlier one that matches as well; the one of
another code does not match, and gives way to the first that does. -/
theorem code_gives_priority_only_mapped :
    let set := Standard.templates.run Platform.bare
      [.withCodes [(.string "TS9", .string "return_mismatch"), (.int 9, .string "missing")],
        .withCodes [(.string "TS9", .string "return_mismatch")]]
    let message := "Type 'a' is not assignable to type 'b'"
    ofMessage? set message (.int 9) =
        some ⟨"return_mismatch", ⟨"Returned:", "Expected return:"⟩, "a", "b"⟩ ∧
      ofMessage? set message (.int 2345) =
        some ⟨"assignability", ⟨"Actual type:", "Expected type:"⟩, "a", "b"⟩ ∧
      ofMessage? set message (.string " ts9 ") = ofMessage? set message (.int 9) := by
  intro set message
  have hset : set.Reachable := ⟨_, _, _, .inr rfl, rfl⟩
  obtain ⟨hmatch, -, -, -, -, hspelled⟩ := code_gives_priority_only hset message (.int 9)
  obtain ⟨-, hother, hnull, -⟩ := code_gives_priority_only hset message (.int 2345)
  have hshape : set = _ := congrArg (TemplateSet.run Platform.bare · _) Standard.templates_eq
  refine ⟨hmatch Standard.returnMismatch "a" "b" ?_ (by decide +kernel), (hother ?_).trans ?_,
    hspelled 9 _ (.number (by decide +kernel)) ?_⟩
  · rw [hshape]
    decide +kernel
  · have hparameter : set.forCode? (.int 2345) = some Standard.parameter := by
      rw [hshape]
      decide +kernel
    rw [hparameter]
    rintro _ ⟨⟩
    decide +kernel
  · rw [hnull, hshape]
    decide +kernel
  · have hblank : ∀ c ∈ [' '], Text.isBlank c = true := List.forall_mem_singleton.2 rfl
    exact .lettered hblank hblank (t := 't') (s := 's') rfl rfl

end Mismatch

end TypeMismatch
