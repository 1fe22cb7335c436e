import TypeMismatch.Proofs.Layout.Break

/-!
# Lines of glyphs

A glyph begins a line when a line ends in its gap.  Splitting a text at its line ends, trimming the
parts and dropping the empty ones gives the lines of its glyphs, each without its first gap
(`textLines_spell`).
-/

namespace TypeMismatch.Layout

/-- The lines of a text, trimmed, without the empty ones. -/
def textLines (cs : List Char) : List (List Char) :=
  ((Text.splitAt '\n' cs).map Text.trim).filter fun line => !line.isEmpty

/-- The text of a line. -/
def lineText (line : List Glyph) : List Char := spell (flush line)

/-- Lines with a glyph in front of the first one. -/
def consFirst (g : Glyph) : List (List Glyph) → List (List Glyph)
  | [] => [[g]]
  | line :: rest => (g :: line) :: rest

/-- The lines of a list of glyphs. -/
def lines : List Glyph → List (List Glyph)
  | [] => []
  | [g] => [[g]]
  | g :: h :: rest =>
    if h.gap.Breaks then [g] :: lines (h :: rest) else consFirst g (lines (h :: rest))

/-- Lines as `lines` makes them: none is empty, and a line ends in the gap of a glyph exactly if the
glyph is the first of its line, the very first line apart. -/
inductive Lined : List (List Glyph) → Prop
  | nil : Lined []
  | cons (g : Glyph) (body : List Glyph) (rest : List (List Glyph))
      (whole : ∀ h ∈ body, ¬ h.gap.Breaks)
      (next : ∀ line ∈ rest.head?, ∃ h more, line = h :: more ∧ h.gap.Breaks)
      (there : Lined rest) : Lined ((g :: body) :: rest)

theorem lines_cons (h : Glyph) (rest : List Glyph) :
    ∃ body others, lines (h :: rest) = (h :: body) :: others := by
  cases rest with
  | nil => exact ⟨[], [], rfl⟩
  | cons k rest =>
    rw [lines]
    split
    · exact ⟨[], _, rfl⟩
    · cases lines (k :: rest) with
      | nil => exact ⟨[], [], rfl⟩
      | cons line others => exact ⟨line, others, rfl⟩

theorem flatten_lines (gs : List Glyph) : (lines gs).flatten = gs := by
  fun_induction lines gs with
  | case1 => rfl
  | case2 g => rfl
  | case3 g h rest hb ih => rw [List.flatten_cons, ih]; rfl
  | case4 g h rest hb ih =>
    obtain ⟨body, others, he⟩ := lines_cons h rest
    rw [he] at ih ⊢
    rw [consFirst, List.flatten_cons, List.cons_append, ← List.flatten_cons, ih]

theorem lined_lines (gs : List Glyph) : Lined (lines gs) := by
  fun_induction lines gs with
  | case1 => exact .nil
  | case2 g => exact .cons g [] [] (by simp) (by simp) .nil
  | case3 g h rest hb ih =>
    obtain ⟨body, others, he⟩ := lines_cons h rest
    refine .cons g [] _ (by simp) ?_ ih
    intro line hl
    rw [he, List.head?_cons, Option.mem_some_iff] at hl
    exact ⟨h, body, hl.symm, hb⟩
  | case4 g h rest hb ih =>
    obtain ⟨body, others, he⟩ := lines_cons h rest
    rw [he] at ih ⊢
    cases ih with
    | cons _ _ _ whole next there =>
      refine .cons g (h :: body) others ?_ next there
      intro k hk
      rcases List.mem_cons.1 hk with rfl | hk
      · exact hb
      · exact whole k hk

/-! ## Lines of a text -/

theorem textLines_gap_append (w : Gap) (cs : List Char) :
    textLines (w.chars ++ cs) = textLines cs := by
  obtain ⟨ws, hw⟩ := w
  induction ws with
  | nil => rfl
  | cons c ws ih =>
    have hc : Text.isBlank c = true := hw c List.mem_cons_self
    rw [← ih fun d hd => hw d (List.mem_cons_of_mem c hd)]
    by_cases hn : c = '\n'
    · subst hn
      simp [textLines, Text.splitAt_cons_self]
    · rcases hs : Text.splitAt '\n' (ws ++ cs) with _ | ⟨part, parts⟩
      · exact absurd hs (Text.splitAt_ne_nil _ _)
      · have hcons := Text.splitAt_append (show '\n' ∉ [c] by simpa using fun e => hn e.symm) hs
        have htrim := Text.trim_blank_append (show ∀ d ∈ [c], Text.isBlank d = true by simpa) part
        rw [List.singleton_append] at hcons htrim
        simp [textLines, hs, hcons, htrim]

/-- Nothing but blanks stands before the end of the first line. -/
def BlankStart (cs : List Char) : Prop :=
  ∃ part parts, Text.splitAt '\n' cs = part :: parts ∧ ∀ c ∈ part, Text.isBlank c = true

theorem BlankStart.of_breaks {w : Gap} (h : w.Breaks) (cs : List Char) :
    BlankStart (w.chars ++ cs) := by
  obtain ⟨u, v, hw, hu⟩ := List.eq_append_cons_of_mem h
  refine ⟨u, Text.splitAt '\n' (v ++ cs), ?_, fun c hc => w.blank c ?_⟩
  · rw [hw, List.append_assoc, List.cons_append, Text.splitAt_append_cons hu]
  · rw [hw]
    exact List.mem_append_left _ hc

theorem BlankStart.of_gap (w : Gap) : BlankStart w.chars := by
  by_cases h : w.Breaks
  · have hs := BlankStart.of_breaks h []
    rwa [List.append_nil] at hs
  · exact ⟨w.chars, [], Text.splitAt_of_notMem h, w.blank⟩

/-- A line of glyphs is the first line of a text that goes on with blanks. -/
theorem textLines_line_append {g : Glyph} {body : List Glyph} (hb : ∀ h ∈ body, ¬ h.gap.Breaks)
    {cs : List Char} (hs : BlankStart cs) :
    textLines (lineText (g :: body) ++ cs) = lineText (g :: body) :: textLines cs := by
  obtain ⟨part, parts, hsplit, hblank⟩ := hs
  have hno : ∀ gs : List Glyph, (∀ h ∈ gs, ¬ h.gap.Breaks) → '\n' ∉ spell gs := by
    intro gs
    induction gs with
    | nil => simp
    | cons h gs ih =>
      intro hall
      have hchar : '\n' ≠ h.char := Text.ne_of_isBlank (by decide) h.inked
      have hgap : '\n' ∉ h.gap.chars := hall h List.mem_cons_self
      simp [spell, hgap, hchar, ih fun k hk => hall k (List.mem_cons_of_mem h hk)]
  have hline : '\n' ∉ lineText (g :: body) := by
    apply hno
    intro h hh
    rcases List.mem_cons.1 hh with rfl | hh
    · exact Gap.not_breaks_none
    · exact hb h hh
  have htrim : Text.trim (lineText (g :: body) ++ part) = lineText (g :: body) :=
    trim_spell_append (flush (g :: body)) ⟨part, hblank⟩
  have hpart : Text.trim part = [] := Text.trim_of_blank hblank
  have hne : lineText (g :: body) ≠ [] := by simp [lineText, flush, spell]
  simp [textLines, hsplit, Text.splitAt_append hline hsplit, htrim, hpart, hne]

/-- **The lines of a text are the lines of its glyphs.** -/
theorem textLines_flatten {ls : List (List Glyph)} (h : Lined ls) (tail : Gap) :
    textLines (spell ls.flatten ++ tail.chars) = ls.map lineText := by
  induction h with
  | nil =>
    have hnil := textLines_gap_append tail []
    rw [List.append_nil] at hnil
    rw [List.flatten_nil, spell_nil, List.nil_append, hnil]
    rfl
  | cons g body rest whole next there ih =>
    have hstart : BlankStart (spell rest.flatten ++ tail.chars) := by
      cases rest with
      | nil => exact BlankStart.of_gap tail
      | cons line rest =>
        obtain ⟨h, more, rfl, hb⟩ := next line rfl
        rw [List.flatten_cons, List.cons_append, spell, List.append_assoc]
        exact BlankStart.of_breaks hb _
    have hfirst : spell (g :: body) = g.gap.chars ++ lineText (g :: body) := rfl
    rw [List.flatten_cons, spell_append, hfirst, List.append_assoc, List.append_assoc,
      textLines_gap_append, textLines_line_append whole hstart, ih, List.map_cons]

theorem textLines_spell (gs : List Glyph) (tail : Gap) :
    textLines (spell gs ++ tail.chars) = (lines gs).map lineText := by
  have h := textLines_flatten (lined_lines gs) tail
  rwa [flatten_lines] at h

end TypeMismatch.Layout
