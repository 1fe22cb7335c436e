import TypeMismatch.Proofs.Summary.Union
import TypeMismatch.Proofs.Text.SingleSpace

/-!
# How wide a summary is

Names, dots and parentheses may make a shortened text longer than the text, and then the text is cut
instead, so no summary is longer than its text without the blanks around it
(`length_summarize_le`).  A text that is neither taken for an object type nor for a union is always
cut.  It is no union when all of its bars are inside of brackets, and this can be told before its
blanks are made single spaces: a space does not open or close a bracket, and no two characters that
were apart come together to an arrow (`exists_bar_of_singleSpacedFrom`).
-/

namespace TypeMismatch.Summary

/-! ## Long texts -/

/-- The text on one line, as it is shortened. -/
def line (cs : List Char) : List Char := Text.singleSpacedFrom false (Text.trim cs)

theorem inked_of_long {cs : List Char} (hlong : 25 < (Text.trim cs).length) :
    Text.Inked (Text.trim cs) := by
  refine Text.inked_trim ?_
  rintro hnil
  rw [hnil] at hlong
  exact absurd hlong (Nat.not_lt_zero _)

theorem summary_of_long {cs : List Char} (hlong : 25 < (Text.trim cs).length) :
    summary cs =
      if (line cs).length < (shorten (line cs)).length then truncate (line cs)
      else shorten (line cs) := by
  unfold summary
  dsimp only
  rw [Text.joinWith_words (inked_of_long hlong)]
  exact if_neg (Nat.not_le.2 hlong)

theorem length_line_le (cs : List Char) : (line cs).length ≤ (Text.trim cs).length :=
  Text.length_singleSpacedFrom_le false _

theorem head?_line {cs : List Char} (hlong : 25 < (Text.trim cs).length) :
    (line cs).head? = (Text.trim cs).head? := by
  obtain ⟨c, rest, hcons, hc⟩ := (inked_of_long hlong).first
  rw [line, hcons, Text.singleSpacedFrom_ink false hc]
  rfl

/-! ## Cut texts -/

theorem length_truncate_le (cs : List Char) : (truncate cs).length ≤ 40 := by
  unfold truncate
  split
  · assumption
  · have hcut :=
      (Text.prefix_dropRight Text.isBlank (cs.take (longLimit - ellipsis.length))).length_le
    simp only [Text.trimRight, List.length_append, List.length_take, longLimit, ellipsis,
      List.length_cons, List.length_nil] at hcut ⊢
    omega

theorem length_truncate_le_length (cs : List Char) : (truncate cs).length ≤ cs.length := by
  by_cases hshort : cs.length ≤ 40
  · exact Nat.le_of_eq (congrArg List.length ((truncate_eq_self_iff cs).2 hshort))
  · exact Nat.le_trans (length_truncate_le cs) (Nat.le_of_not_le hshort)

theorem length_summary_le (cs : List Char) : (summary cs).length ≤ (Text.trim cs).length := by
  by_cases hlong : 25 < (Text.trim cs).length
  · rw [summary_of_long hlong]
    refine Nat.le_trans ?_ (length_line_le cs)
    split
    · exact length_truncate_le_length _
    · next hfits => exact Nat.not_lt.1 hfits
  · have hshort : summary cs = Text.trim cs := if_pos (Nat.not_lt.1 hlong)
    exact Nat.le_of_eq (congrArg List.length hshort)

/-! ## Bars inside of brackets -/

theorem openBrackets_blank {c : Char} (hc : Text.isBlank c = true) (before : List Char) :
    openBrackets (c :: before) = openBrackets before := by
  rw [openBrackets, if_neg, if_neg]
  · rintro (rfl | rfl | rfl | ⟨rfl, -⟩) <;> exact absurd hc (by decide)
  · rintro (rfl | rfl | rfl | rfl) <;> exact absurd hc (by decide)

/-- What is before a place in a text, and before it in the same text with single spaces: the same
brackets are open, and an arrow has begun in both or in none.  Behind blanks none has. -/
structure Alike (gap : Bool) (before before' : List Char) : Prop where
  opened : openBrackets before = openBrackets before'
  arrow : before.head? = some '=' ↔ gap = false ∧ before'.head? = some '='

namespace Alike

variable {gap : Bool} {before before' : List Char} {c : Char}

theorem blank (h : Alike gap before before') (hc : Text.isBlank c = true) :
    Alike true (c :: before) before' := by
  refine ⟨by rw [openBrackets_blank hc, h.opened], ?_⟩
  have hne : c ≠ '=' := Text.ne_of_isBlank hc rfl
  simp [hne]

/-- Before the next character that is not blank the run of blanks is a space. -/
theorem spaced (h : Alike gap before before') :
    Alike false before ((Text.spaceIf gap).reverse ++ before') := by
  cases gap with
  | false => exact h
  | true =>
    have hspace : openBrackets (' ' :: before') = openBrackets before' := openBrackets_blank rfl _
    refine ⟨h.opened.trans hspace.symm, ?_⟩
    have harrow := h.arrow
    simpa using harrow

/-- What a character does to the brackets is told by the character and the arrow before it. -/
theorem ink (h : Alike false before before') : Alike false (c :: before) (c :: before') := by
  have harrow : before.head? = some '=' ↔ before'.head? = some '=' := by simpa using h.arrow
  refine ⟨?_, by simp⟩
  simp only [openBrackets, h.opened, harrow, ne_eq]

end Alike

/-- A bar of the text with single spaces is a bar of the text, inside of the same brackets. -/
theorem exists_bar_of_singleSpacedFrom {gap : Bool} {cs before before' u' v' : List Char}
    (halike : Alike gap before before')
    (h : Text.singleSpacedFrom gap cs = u' ++ '|' :: v') :
    ∃ u v, cs = u ++ '|' :: v ∧
      openBrackets (u.reverse ++ before) = openBrackets (u'.reverse ++ before') := by
  induction cs generalizing gap before before' u' with
  | nil => simp at h
  | cons c cs ih =>
    cases hc : Text.isBlank c with
    | true =>
      rw [Text.singleSpacedFrom_blank gap hc] at h
      obtain ⟨u, v, rfl, hopen⟩ := ih (halike.blank hc) h
      exact ⟨c :: u, v, rfl, by simpa using hopen⟩
    | false =>
      rw [Text.singleSpacedFrom_ink gap hc] at h
      obtain ⟨w, rfl, hrest⟩ : ∃ w, u' = Text.spaceIf gap ++ w ∧
          c :: Text.singleSpacedFrom false cs = w ++ '|' :: v' := by
        cases gap with
        | false => exact ⟨u', rfl, h⟩
        | true =>
          cases u' with
          | nil => simp at h
          | cons x w =>
            obtain ⟨rfl, htail⟩ := List.cons.inj h
            exact ⟨w, rfl, htail⟩
      cases w with
      | nil =>
        obtain ⟨rfl, -⟩ := List.cons.inj hrest
        exact ⟨[], cs, rfl, by simpa using halike.spaced.opened⟩
      | cons x w =>
        obtain ⟨rfl, htail⟩ := List.cons.inj hrest
        obtain ⟨u, v, rfl, hopen⟩ := ih halike.spaced.ink htail
        exact ⟨c :: u, v, rfl, by simpa using hopen⟩

theorem BarsInside.line {cs : List Char} (h : BarsInside (Text.trim cs)) :
    BarsInside (line cs) := by
  intro u' v' hline
  have hstart : Alike false [] [] := ⟨rfl, by simp⟩
  obtain ⟨u, v, htext, hopen⟩ := exists_bar_of_singleSpacedFrom hstart hline
  have hbar := h u v htext
  rw [List.append_nil, List.append_nil] at hopen
  rwa [hopen] at hbar

/-- A text whose bars are all inside of brackets is no union. -/
theorem ofUnion?_eq_none {cs : List Char} (h : BarsInside cs) : ofUnion? cs = none := by
  have hone : alternativesFrom 0 none [] cs = [cs] := by
    have hread := @alternativesFrom_append [] [] cs [] (by simpa [BarsInside] using h)
    simpa [openBrackets, alternativesFrom] using hread
  have hfew : (alternatives cs).length ≤ 1 := by
    rw [alternatives, hone]
    exact List.length_filter_le _ _
  exact if_pos hfew

theorem length_summary_le_forty {cs : List Char} (hlong : 25 < (Text.trim cs).length)
    (hbrace : (Text.trim cs).head? ≠ some '\x7b') (hbars : BarsInside (Text.trim cs)) :
    (summary cs).length ≤ 40 := by
  have hobject : ((line cs).head? == some '\x7b') = false := by
    rw [head?_line hlong]
    simpa using hbrace
  have hshort : shorten (line cs) = truncate (collapseArrays (line cs)) := by
    simp [shorten, hobject, ofUnion?_eq_none hbars.line]
  rw [summary_of_long hlong, hshort]
  split
  · exact length_truncate_le _
  · exact length_truncate_le _

/-- **No summary is longer than its text.**  The summary of a long text that does not open with a
brace and has no bar outside of brackets has at most forty characters. -/
theorem length_summarize_le (text : String) :
    (summarize text).length ≤ (Text.trim text.toList).length ∧
      (25 < (Text.trim text.toList).length → (Text.trim text.toList).head? ≠ some '\x7b' →
        BarsInside (Text.trim text.toList) → (summarize text).length ≤ 40) := by
  have hlength : (summarize text).length = (summary text.toList).length := by
    rw [summarize, String.length_ofList]
  rw [hlength]
  exact ⟨length_summary_le _, length_summary_le_forty⟩

/-- A function on several lines, with bars inside of three kinds of brackets and an array. -/
theorem length_summarize_le_of_function :
    let text := " (done: (x: A | B)\n=> Promise<C |\tD>) => Array<[E | F]> "
    (summarize text).length ≤ (Text.trim text.toList).length ∧
      25 < (Text.trim text.toList).length ∧ (Text.trim text.toList).head? ≠ some '\x7b' ∧
      BarsInside (Text.trim text.toList) ∧ (summarize text).length ≤ 40 := by
  intro text
  obtain ⟨hle, hforty⟩ := length_summarize_le text
  have hlong : 25 < (Text.trim text.toList).length := by decide +kernel
  have hbrace : (Text.trim text.toList).head? ≠ some '\x7b' := by decide +kernel
  have hbars : BarsInside (Text.trim text.toList) := by decide +kernel
  exact ⟨hle, hlong, hbrace, hbars, hforty hlong hbrace hbars⟩

end TypeMismatch.Summary
