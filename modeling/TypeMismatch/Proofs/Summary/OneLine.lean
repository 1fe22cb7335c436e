import TypeMismatch.Proofs.Summary.Array
import TypeMismatch.Rendering

/-!
# When a summary is one line

The blanks of a long text are made single spaces before it is cut short, and everything that is
added afterwards is a space or a mark (`mem_shorten`), so the summary of a long text has no line
break.  A short text is its own summary, with its line breaks (`summary_breaks_iff`).  The one-line
form of a message and the preview of a type break exactly when they show such a text
(`breaks_iff_short`).
-/

namespace TypeMismatch

namespace Summary

/-! ## The characters of a summary -/

/-- The characters that a summary may add to a text. -/
def marks : List Char := [' ', '|', ',', '.', '\x7b', '\x7d', '(', ')', '[', ']']

section Marks

variable {cs part : List Char} {c : Char}

theorem mem_of_mem_alternativesFrom {depth : Nat} {last : Option Char} {before : List Char}
    (hpart : part ∈ alternativesFrom depth last before cs) (hc : c ∈ part) :
    c ∈ before ∨ c ∈ cs := by
  induction cs generalizing depth last before with
  | nil =>
    rw [alternativesFrom, List.mem_singleton] at hpart
    exact .inl (List.mem_reverse.1 (hpart ▸ hc))
  | cons d cs ih =>
    have hstep : ∀ {n l}, part ∈ alternativesFrom n l (d :: before) cs →
        c ∈ before ∨ c ∈ d :: cs := by
      intro n l h
      rcases ih h with h | h
      · rcases List.mem_cons.1 h with rfl | h
        · exact .inr List.mem_cons_self
        · exact .inl h
      · exact .inr (List.mem_cons_of_mem d h)
    rw [alternativesFrom] at hpart
    split at hpart
    · exact hstep hpart
    · split at hpart
      · exact hstep hpart
      · split at hpart
        · rcases List.mem_cons.1 hpart with rfl | hpart
          · exact .inl (List.mem_reverse.1 hc)
          · rcases ih hpart with h | h
            · cases h
            · exact .inr (List.mem_cons_of_mem d h)
        · exact hstep hpart

theorem mem_of_mem_alternatives (hpart : part ∈ alternatives cs) (hc : c ∈ part) : c ∈ cs := by
  obtain ⟨hpart, -⟩ := List.mem_filter.1 hpart
  obtain ⟨whole, hwhole, rfl⟩ := List.mem_map.1 hpart
  rcases mem_of_mem_alternativesFrom hwhole (Text.mem_of_mem_trim hc) with h | h
  · cases h
  · exact h

theorem isNamePart_of_isNameStart (h : isNameStart c = true) : isNamePart c = true := by
  have hascii : Text.isAsciiLetter c = true → c.toNat < 128 := by
    intro hc
    simp [Text.isAsciiLetter, Char.le_def, UInt32.le_iff_toNat_le] at hc
    omega
  simp only [isNameStart, Bool.or_eq_true, beq_iff_eq] at h
  rcases h with (rfl | rfl) | h
  · rfl
  · rfl
  · simp [isNamePart, Text.isWordChar, Text.isAlphanumeric, hascii h, h]

theorem colon_suffix_of_afterColon? {after : List Char} (h : afterColon? cs = some after) :
    ':' :: after <:+ cs := by
  unfold afterColon? at h
  split at h
  · cases h
    exact List.suffix_refl _
  · cases h
    exact List.suffix_cons _ _
  · cases h

theorem mem_of_mem_memberNamesFrom {fuel : Nat} (hpart : part ∈ memberNamesFrom fuel cs)
    (hc : c ∈ part) : c ∈ cs ∧ isNamePart c = true := by
  induction fuel generalizing cs with
  | zero => cases hpart
  | succ fuel ih =>
    cases cs with
    | nil => cases hpart
    | cons d cs =>
      rw [memberNamesFrom] at hpart
      have hafter : cs.dropWhile isNamePart ⊆ d :: cs := fun x hx =>
        List.mem_cons_of_mem d ((List.dropWhile_suffix _).subset hx)
      split at hpart
      · next hd =>
        dsimp only at hpart
        split at hpart
        · next next hnext =>
          rcases List.mem_cons.1 hpart with rfl | hpart
          · rcases List.mem_cons.1 hc with rfl | hc
            · exact ⟨List.mem_cons_self, isNamePart_of_isNameStart hd⟩
            · exact ⟨List.mem_cons_of_mem d ((List.takeWhile_prefix _).subset hc),
                List.all_eq_true.1 List.all_takeWhile c hc⟩
          · have hnext' := colon_suffix_of_afterColon? hnext
            exact (ih hpart).imp_left fun h => hafter (hnext'.subset (List.mem_cons_of_mem _ h))
        · exact (ih hpart).imp_left fun h => hafter h
      · exact (ih hpart).imp_left (List.mem_cons_of_mem d)

theorem mem_of_mem_memberNames (hpart : part ∈ memberNames cs) (hc : c ∈ part) :
    c ∈ cs ∧ isNamePart c = true :=
  mem_of_mem_memberNamesFrom (List.mem_eraseDups.1 hpart) hc

theorem mem_firstItems {sep : List Char} {parts : List (List Char)}
    (hc : c ∈ firstItems sep parts) : c ∈ sep ∨ c = '.' ∨ ∃ p ∈ parts, c ∈ p := by
  have hshown : ∀ {d}, d ∈ Text.joinWith sep (parts.take maxItems) →
      d ∈ sep ∨ d = '.' ∨ ∃ p ∈ parts, d ∈ p := by
    intro d hd
    rcases Text.mem_of_mem_joinWith hd with h | ⟨p, hp, h⟩
    · exact .inl h
    · exact .inr (.inr ⟨p, List.mem_of_mem_take hp, h⟩)
  unfold firstItems at hc
  dsimp only at hc
  split at hc
  · rw [List.mem_append, List.mem_append] at hc
    rcases hc with (hc | hc) | hc
    · exact hshown hc
    · exact .inl hc
    · simp only [ellipsis, List.mem_cons, List.not_mem_nil, or_false, or_self] at hc
      exact .inr (.inl hc)
  · exact hshown hc

theorem mem_truncate (hc : c ∈ truncate cs) : c ∈ cs ∨ c = '.' := by
  unfold truncate at hc
  split at hc
  · exact .inl hc
  · rcases List.mem_append.1 hc with hc | hc
    · exact .inl (List.mem_of_mem_take ((Text.prefix_dropRight _ _).subset hc))
    · simp only [ellipsis, List.mem_cons, List.not_mem_nil, or_false, or_self] at hc
      exact .inr hc

theorem mem_shortArray (hc : c ∈ shortArray cs) : c ∈ cs ∨ c ∈ marks := by
  have hinner : c ∈ Text.trim cs → c ∈ cs ∨ c ∈ marks := fun h => .inl (Text.mem_of_mem_trim h)
  unfold shortArray at hc
  dsimp only at hc
  split at hc
  · simp only [List.mem_append, List.mem_cons, List.not_mem_nil, or_false] at hc
    rcases hc with (rfl | hc | rfl) | rfl | rfl
    · exact .inr (by decide)
    · exact hinner hc
    · exact .inr (by decide)
    · exact .inr (by decide)
    · exact .inr (by decide)
  · simp only [List.mem_append, List.mem_cons, List.not_mem_nil, or_false] at hc
    rcases hc with hc | rfl | rfl
    · exact hinner hc
    · exact .inr (by decide)
    · exact .inr (by decide)

theorem subset_of_innermostArray? {items after : List Char}
    (h : innermostArray? cs = some (items, after)) : items ⊆ cs ∧ after ⊆ cs := by
  obtain ⟨rfl, -⟩ := innermostArray?_eq_some_iff.1 h
  exact ⟨fun x hx => by simp [hx], fun x hx => by simp [hx]⟩

theorem mem_collapseFrom {fuel : Nat} {inWord : Bool} (hc : c ∈ collapseFrom fuel inWord cs) :
    c ∈ cs ∨ c ∈ marks := by
  induction fuel generalizing cs inWord with
  | zero => exact .inl hc
  | succ fuel ih =>
    cases cs with
    | nil => cases hc
    | cons d cs =>
      rw [collapseFrom] at hc
      split at hc
      · next items after harray =>
        have hsub : items ⊆ d :: cs ∧ after ⊆ d :: cs := by
          split at harray
          · cases harray
          · exact subset_of_innermostArray? harray
        rcases List.mem_append.1 hc with hc | hc
        · exact (mem_shortArray hc).imp_left fun h => hsub.1 h
        · exact (ih hc).imp_left fun h => hsub.2 h
      · rcases List.mem_cons.1 hc with rfl | hc
        · exact .inl List.mem_cons_self
        · exact (ih hc).imp_left (List.mem_cons_of_mem d)

theorem mem_collapseRounds {fuel : Nat} (hc : c ∈ collapseRounds fuel cs) :
    c ∈ cs ∨ c ∈ marks := by
  induction fuel generalizing cs with
  | zero => exact .inl hc
  | succ fuel ih =>
    rw [collapseRounds] at hc
    split at hc
    · exact .inl hc
    · rcases ih hc with h | h
      · exact mem_collapseFrom h
      · exact .inr h

theorem mem_ofObject? {shown : List Char} (h : ofObject? cs = some shown) (hc : c ∈ shown) :
    c ∈ cs ∨ c ∈ marks := by
  unfold ofObject? at h
  dsimp only at h
  split at h
  · cases h
  · simp only [Option.some.injEq] at h
    subst h
    simp only [List.mem_cons, List.mem_append, List.not_mem_nil, or_false] at hc
    rcases hc with rfl | rfl | hc | rfl | rfl
    · exact .inr (by decide)
    · exact .inr (by decide)
    · rcases mem_firstItems hc with h | rfl | ⟨name, hname, h⟩
      · refine .inr ?_
        simp only [List.mem_cons, List.not_mem_nil, or_false] at h
        rcases h with rfl | rfl <;> decide
      · exact .inr (by decide)
      · exact .inl (mem_of_mem_memberNames hname h).1
    · exact .inr (by decide)
    · exact .inr (by decide)

theorem mem_ofUnion? {shown : List Char} (h : ofUnion? cs = some shown) (hc : c ∈ shown) :
    c ∈ cs ∨ c ∈ marks := by
  unfold ofUnion? at h
  dsimp only at h
  split at h
  · cases h
  · simp only [Option.some.injEq] at h
    subst h
    rcases mem_firstItems hc with h | rfl | ⟨part, hpart, h⟩
    · refine .inr ?_
      simp only [List.mem_cons, List.not_mem_nil, or_false] at h
      rcases h with rfl | rfl | rfl <;> decide
    · exact .inr (by decide)
    · exact .inl (mem_of_mem_alternatives hpart h)

/-- **A summary is made of the characters of the text and of marks.** -/
theorem mem_shorten (hc : c ∈ shorten cs) : c ∈ cs ∨ c ∈ marks := by
  unfold shorten at hc
  dsimp only at hc
  cases hobject : (if cs.head? == some '\x7b' then ofObject? cs else none) with
  | some shown =>
    rw [hobject] at hc
    split at hobject
    · exact mem_ofObject? hobject hc
    · cases hobject
  | none =>
    rw [hobject, Option.none_or] at hc
    cases hunion : ofUnion? cs with
    | some shown =>
      rw [hunion] at hc
      exact mem_ofUnion? hunion hc
    | none =>
      rw [hunion] at hc
      rcases mem_truncate hc with h | rfl
      · exact mem_collapseRounds h
      · exact .inr (by decide)

end Marks

/-! ## Line breaks -/

/-- Does the text go over more than one line? -/
def Breaks (cs : List Char) : Prop := ∃ c ∈ cs, Text.isLineBreak c = true

instance (cs : List Char) : Decidable (Breaks cs) :=
  decidable_of_iff (cs.any Text.isLineBreak = true) List.any_eq_true

theorem breaks_append {a b : List Char} : Breaks (a ++ b) ↔ Breaks a ∨ Breaks b := by
  unfold Breaks
  constructor
  · rintro ⟨c, hc, hbreak⟩
    rcases List.mem_append.1 hc with hc | hc
    · exact .inl ⟨c, hc, hbreak⟩
    · exact .inr ⟨c, hc, hbreak⟩
  · rintro (⟨c, hc, hbreak⟩ | ⟨c, hc, hbreak⟩)
    · exact ⟨c, List.mem_append_left b hc, hbreak⟩
    · exact ⟨c, List.mem_append_right a hc, hbreak⟩

theorem isBlank_of_isLineBreak {c : Char} (h : Text.isLineBreak c = true) :
    Text.isBlank c = true := by
  simp [Text.isLineBreak] at h
  simp [Text.isBlank]
  omega

theorem isLineBreak_of_mem_marks {c : Char} (h : c ∈ marks) : Text.isLineBreak c = false := by
  have hall : (marks.all fun d => !Text.isLineBreak d) = true := rfl
  simpa using List.all_eq_true.1 hall c h

/-- A text of at most 25 characters, blanks around it apart, that goes over several lines. -/
def ShortAndBroken (cs : List Char) : Prop :=
  (Text.trim cs).length ≤ 25 ∧ Breaks (Text.trim cs)

/-- The words of a text on one line. -/
theorem not_breaks_line (cs : List Char) : ¬ Breaks (Text.joinWith [' '] (Text.words cs)) := by
  rintro ⟨c, hc, hbreak⟩
  rw [Text.eq_space_of_mem_joinWith_words hc (isBlank_of_isLineBreak hbreak)] at hbreak
  cases hbreak

theorem not_breaks_shorten {cs : List Char} (h : ¬ Breaks cs) : ¬ Breaks (shorten cs) := by
  rintro ⟨c, hc, hbreak⟩
  rcases mem_shorten hc with hc | hc
  · exact h ⟨c, hc, hbreak⟩
  · rw [isLineBreak_of_mem_marks hc] at hbreak
    cases hbreak

theorem not_breaks_truncate {cs : List Char} (h : ¬ Breaks cs) : ¬ Breaks (truncate cs) := by
  rintro ⟨c, hc, hbreak⟩
  rcases mem_truncate hc with hc | rfl
  · exact h ⟨c, hc, hbreak⟩
  · cases hbreak

/-- The summary of a short text alone can break. -/
theorem summary_breaks_iff (cs : List Char) : Breaks (summary cs) ↔ ShortAndBroken cs := by
  unfold summary
  dsimp only
  by_cases hshort : (Text.trim cs).length ≤ shortLimit
  · rw [if_pos hshort]
    exact ⟨fun h => ⟨hshort, h⟩, fun h => h.2⟩
  · rw [if_neg hshort]
    have hline := not_breaks_line (Text.trim cs)
    refine iff_of_false ?_ fun h => hshort h.1
    split
    · exact not_breaks_truncate hline
    · exact not_breaks_shorten hline

end Summary

namespace Rendering

open Summary

theorem not_breaks_firstLine (cs : List Char) : ¬ Breaks (Text.firstLine cs) := by
  rintro ⟨c, hc, hbreak⟩
  have hall := List.all_eq_true.1 List.all_takeWhile c hc
  rw [hbreak] at hall
  cases hall

theorem oneLine_breaks_iff (s : Settings) (message : String) (code : Json) :
    Breaks (oneLine s message code).toList ↔ ∃ m, find? s message code = some m ∧
      (ShortAndBroken m.actual.toList ∨ ShortAndBroken m.expected.toList) := by
  unfold oneLine
  cases hfind : find? s message code with
  | none =>
    have hfirst := not_breaks_firstLine message.toList
    simpa using hfirst
  | some m =>
    have harrow : ¬ Breaks arrow.toList := by decide
    simp [shortened, summarize, breaks_append, summary_breaks_iff, harrow]

theorem preview?_breaks_iff (s : Settings) (message : String) (code : Json) :
    (∃ shown, preview? s message code = some shown ∧ Breaks shown.toList) ↔
      s.showPreview = true ∧ ∃ m, find? s message code = some m ∧
        ShortAndBroken m.expected.toList := by
  unfold preview?
  have hmark : ¬ Breaks previewMark.toList := by decide
  cases s.showPreview with
  | false => simp
  | true =>
    cases hfind : find? s message code with
    | none => simp
    | some m => simp [shortened, summarize, breaks_append, summary_breaks_iff, hmark]

/-- **A summary is one line unless the text is short and breaks itself.**  The same goes for what a
message is shown as on one line, by its two types, and for a preview, by the expected type. -/
theorem breaks_iff_short (text message : String) (s : Settings) (code : Json) :
    (Breaks (summarize text).toList ↔ ShortAndBroken text.toList) ∧
      (Breaks (oneLine s message code).toList ↔ ∃ m, find? s message code = some m ∧
        (ShortAndBroken m.actual.toList ∨ ShortAndBroken m.expected.toList)) ∧
      ((∃ shown, preview? s message code = some shown ∧ Breaks shown.toList) ↔
        s.showPreview = true ∧ ∃ m, find? s message code = some m ∧
          ShortAndBroken m.expected.toList) := by
  refine ⟨?_, oneLine_breaks_iff s message code, preview?_breaks_iff s message code⟩
  rw [summarize, String.toList_ofList]
  exact summary_breaks_iff text.toList

/-- Two lines of one letter each stay two lines, and so does a type with a carriage return that the
standard templates find in a message. -/
theorem breaks_of_two_letters :
    (summarize "a\nb" = "a\nb" ∧ Breaks (summarize "a\nb").toList) ∧
      oneLine Settings.standard "Type 'a\rb' is not assignable to type 'c'." .null = "a\rb → c" ∧
      Breaks
        (oneLine Settings.standard "Type 'a\rb' is not assignable to type 'c'." .null).toList := by
  have hsummary : summarize "a\nb" = "a\nb" := by decide
  have hline : oneLine Settings.standard "Type 'a\rb' is not assignable to type 'c'." .null =
      "a\rb → c" := by
    decide +kernel
  rw [hsummary, hline]
  exact ⟨⟨rfl, by decide⟩, rfl, by decide⟩

end Rendering

end TypeMismatch
