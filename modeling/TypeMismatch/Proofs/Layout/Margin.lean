import TypeMismatch.Proofs.Layout.Block

/-!
# The margin of a block mirrors its nesting

In a block that was laid out, outside of brackets each separator and each opening brace ends its
line, and each closing brace begins one.  The margin of a line is the indentation of the braces that
are open before it (`format_mirrors_nesting`).  Brackets and braces are counted here in the text
that the layout writes, with its blanks, so the counts of the walks over the broken text are first
shown to be those of the result.
-/

namespace TypeMismatch.Layout

/-! ## Counting in a text and in its ink -/

/-- Two readings of a text, one with and one without its blanks, that agree on what is open. -/
structure Agree (seen before : List Char) : Prop where
  brackets : openBrackets seen = openBrackets before
  braces : openBraces seen = openBraces before

theorem openBrackets_of_isBlank {c : Char} (hc : Text.isBlank c = true) (before : List Char) :
    openBrackets (c :: before) = openBrackets before := by
  rw [openBrackets_cons, depthAfter_of_isBlank hc]
  rintro ⟨rfl, -⟩
  exact absurd hc (by decide)

theorem openBraces_of_isBlank {c : Char} (hc : Text.isBlank c = true) (before : List Char) :
    openBraces (c :: before) = openBraces before :=
  openBraces_cons (fun _ => Text.ne_of_isBlank hc rfl) (fun _ => Text.ne_of_isBlank hc rfl)

theorem Agree.blank_append {ws : List Char} (hws : ∀ c ∈ ws, Text.isBlank c = true)
    {seen before : List Char} (h : Agree seen before) : Agree (ws ++ seen) before := by
  induction ws with
  | nil => exact h
  | cons c ws ih =>
    have hc : Text.isBlank c = true := hws c List.mem_cons_self
    have hrest := ih fun d hd => hws d (List.mem_cons_of_mem c hd)
    refine ⟨?_, ?_⟩
    · rw [List.cons_append, openBrackets_of_isBlank hc, hrest.brackets]
    · rw [List.cons_append, openBraces_of_isBlank hc, hrest.braces]

theorem Agree.cons {seen before : List Char} (h : Agree seen before) {c : Char}
    (harrow : c = '>' → (seen.head? = some '=' ↔ before.head? = some '=')) :
    Agree (c :: seen) (c :: before) := by
  refine ⟨?_, ?_⟩
  · have hskip : (c = '>' ∧ seen.head? ≠ some '=') = (c = '>' ∧ before.head? ≠ some '=') :=
      propext (and_congr_right fun hc => not_congr (harrow hc))
    simp only [openBrackets, h.brackets, hskip]
  · simp only [openBraces, h.brackets, h.braces]

theorem head?_gap_append (w : Gap) (seen : List Char) :
    (w.chars.reverse ++ seen).head? = lastOf seen.head? w.chars := by
  rw [List.head?_append, List.head?_reverse, lastOf]

/-- The blanks of a block do not change what is open. -/
theorem Agree.spell {seen before : List Char} (h : Agree seen before)
    (hhead : seen.head? = before.head?) {gs : List Glyph} (hp : Everywhere Placed before gs) :
    Agree ((spell gs).reverse ++ seen) (past before gs) := by
  induction gs generalizing seen before with
  | nil => exact h
  | cons g gs ih =>
    obtain ⟨hhere, hthere⟩ := hp
    have hgap : Agree (g.gap.chars.reverse ++ seen) before :=
      h.blank_append fun c hc => g.gap.blank c (List.mem_reverse.1 hc)
    have hstep : Agree (g.char :: (g.gap.chars.reverse ++ seen)) (g.char :: before) := by
      apply hgap.cons
      intro hc
      rw [head?_gap_append, hhead]
      exact hhere.arrow_iff hc
    have hrest := ih hstep rfl hthere
    have htext : (Layout.spell (g :: gs)).reverse ++ seen =
        (Layout.spell gs).reverse ++ g.char :: (g.gap.chars.reverse ++ seen) := by
      simp [Layout.spell]
    rw [htext, past_cons]
    exact hrest

theorem agree_spell_append {gs : List Glyph} (hp : Everywhere Placed [] gs) (w : Gap) :
    Agree (spell gs ++ w.chars).reverse (past [] gs) := by
  have h := Agree.spell (⟨rfl, rfl⟩ : Agree [] []) rfl hp
  rw [List.append_nil] at h
  rw [List.reverse_append]
  exact h.blank_append fun c hc => w.blank c (List.mem_reverse.1 hc)

theorem Agree.levelAt_eq {seen before : List Char} (h : Agree seen before) (c : Char) :
    levelAt seen c = levelAt before c := by
  simp only [levelAt, openBraces, h.brackets, h.braces]

/-! ## Lines of a text -/

/-- A line of a text, between `before` and `after`. -/
structure IsLine (cs before line after : List Char) : Prop where
  text : cs = before ++ (line ++ after)
  start : before = [] ∨ before.getLast? = some '\n'
  whole : '\n' ∉ line
  stop : after = [] ∨ after.head? = some '\n'

/-- The level of a line: the braces open before it, after the brace that it begins with if it closes
one. -/
def lineLevel (before line : List Char) : Nat :=
  if (Text.trimLeft line).head? = some '\x7d' then openBraces ('\x7d' :: before.reverse)
  else openBraces before.reverse

/-- A line shows the nesting of the text before it. -/
structure MirrorsNesting (style : Style) (before line : List Char) : Prop where
  separators : ∀ u c v, line = u ++ c :: v → openBrackets (before ++ u).reverse = 0 →
    c = '\x7b' ∨ c = ';' ∨ c = ',' ∨ c = '|' → v = []
  closing : ∀ u v, line = u ++ '\x7d' :: v → openBrackets (before ++ u).reverse = 0 →
    ∀ d ∈ u, Text.isBlank d = true
  margin : line.takeWhile Text.isBlank = indentation style (lineLevel before line)

variable {unit : Gap} {gs : List Glyph}

theorem getLast?_spell_ne (gs : List Glyph) : (spell gs).getLast? ≠ some '\n' := by
  rcases List.eq_nil_or_concat gs with rfl | ⟨init, g, rfl⟩
  · simp
  · have hlast : spell (init.concat g) = (spell init ++ g.gap.chars) ++ [g.char] := by simp [spell]
    rw [hlast, List.getLast?_concat, ne_eq, Option.some.injEq]
    exact (Text.ne_of_isBlank (by decide) g.inked).symm

/-- Outside of brackets nothing stands behind a separator in its line. -/
theorem eq_nil_of_separator (h : Everywhere (Shaped unit) [] gs) {before u v after : List Char}
    {c : Char} (hl : IsLine (spell gs) before (u ++ c :: v) after)
    (h0 : openBrackets (before ++ u).reverse = 0)
    (hc : c = '\x7b' ∨ c = ';' ∨ c = ',' ∨ c = '|') : v = [] := by
  have hends : endsLine c = true := endsLine_iff.2 hc
  have hink : Text.isBlank c = false := isBlank_of_isTight (isTight_of_endsLine hends)
  have hopener : isOpener c = false := by rcases hc with rfl | rfl | rfl | rfl <;> rfl
  have htext := hl.text
  rw [List.append_assoc, ← List.append_assoc, List.cons_append] at htext
  obtain ⟨xs, g, ys, rfl, rfl, hu, hv⟩ := exists_split_of_spell hink htext
  rw [hu, (agree_spell_append h.placed.append_left g.gap).brackets] at h0
  cases ys with
  | nil => exact (List.append_eq_nil_iff.1 hv).1
  | cons z ys =>
    have hz : Shaped unit (g.char :: past [] xs) z := h.at_next
    have hbreaks : z.gap.Breaks := by
      apply hz.placed.after_end g.char rfl hends
      rw [openBrackets_of_plain hopener (isCloser_of_endsLine hends), h0]
    cases v with
    | nil => rfl
    | cons d v =>
      rw [spell, hz.level hbreaks, chars_edge, List.cons_append, List.cons_append] at hv
      have hd : d = '\n' := (List.cons.inj hv).1
      exact absurd (by simp [hd]) hl.whole

/-- Outside of brackets nothing stands before a closing brace in its line. -/
theorem isBlank_of_closing (h : Everywhere (Shaped unit) [] gs) {before u v after : List Char}
    (hl : IsLine (spell gs) before (u ++ '\x7d' :: v) after)
    (h0 : openBrackets (before ++ u).reverse = 0) : ∀ d ∈ u, Text.isBlank d = true := by
  have htext := hl.text
  rw [List.append_assoc, ← List.append_assoc, List.cons_append] at htext
  obtain ⟨xs, g, ys, rfl, hg, hu, -⟩ := exists_split_of_spell (by decide) htext
  rw [hu, (agree_spell_append h.placed.append_left g.gap).brackets] at h0
  have hplace : Shaped unit (past [] xs) g := h.at_split
  intro d hd
  cases xs with
  | nil =>
    apply g.gap.blank
    rw [spell_nil, List.nil_append] at hu
    rw [← hu]
    exact List.mem_append_right _ hd
  | cons x xs =>
    have hbreaks : g.gap.Breaks := hplace.placed.closing (by simp [past]) hg h0
    rcases List.append_eq_append_iff.1 hu with ⟨t, -, hut⟩ | ⟨t, -, hgap⟩
    · -- the line would begin before the gap, which ends a line
      have hin : '\n' ∈ u := by
        rw [hut]
        exact List.mem_append_right _ hbreaks
      exact absurd (List.mem_append_left _ hin) hl.whole
    · apply g.gap.blank
      rw [hgap]
      exact List.mem_append_right _ hd

theorem levelAt_nil (c : Char) : levelAt [] c = 0 := by
  by_cases hc : c = '\x7d' <;> simp [levelAt, openBraces, hc]

theorem newline_notMem_indentGap (hunit : '\n' ∉ unit.chars) (level : Nat) :
    '\n' ∉ (indentGap unit level).chars := by
  intro h
  obtain ⟨cs, hcs, hmem⟩ := List.mem_flatten.1 h
  rw [List.eq_of_mem_replicate hcs] at hmem
  exact hunit hmem

/-- What is spelled does not end in a line break, so the blanks behind it do. -/
theorem eq_concat_newline {xs : List Glyph} {t : Gap} {cs : List Char}
    (h : cs = spell xs ++ t.chars) (hlast : cs.getLast? = some '\n') :
    ∃ ts, t.chars = ts ++ ['\n'] := by
  rcases List.eq_nil_or_concat t.chars with ht | ⟨ts, d, ht⟩
  · rw [h, ht, List.append_nil] at hlast
    exact absurd hlast (getLast?_spell_ne xs)
  · rw [h, ht, List.concat_eq_append, ← List.append_assoc, List.getLast?_concat,
      Option.some.injEq] at hlast
    exact ⟨ts, by rw [ht, hlast, List.concat_eq_append]⟩

/-- A gap that ends a line has one line break, and the indentation behind it. -/
theorem gap_of_level {before : List Char} {z : Glyph} {t : Gap}
    (h : Shaped unit before (z.withGap (t ++ z.gap))) (ht : ∃ ts, t.chars = ts ++ ['\n'])
    (hunit : '\n' ∉ unit.chars) :
    z.gap.chars = (indentGap unit (levelAt before z.char)).chars := by
  obtain ⟨ts, ht⟩ := ht
  have hbreaks : (t ++ z.gap).Breaks := by simp [Gap.Breaks, ht]
  have hlevel := congrArg Gap.chars (h.level hbreaks)
  rw [Glyph.gap_withGap, Gap.chars_append, ht, chars_edge, List.append_assoc,
    List.singleton_append, Glyph.char_withGap] at hlevel
  cases ts with
  | nil => exact (List.cons.inj hlevel).2
  | cons d ts =>
    have hin : '\n' ∈ (indentGap unit (levelAt before z.char)).chars := by
      rw [← (List.cons.inj hlevel).2]
      simp
    exact absurd hin (newline_notMem_indentGap hunit _)

/-- The glyph that begins a line has the indentation in front of it. -/
theorem gap_of_line_start {before : List Char} {xs zs : List Glyph} {z : Glyph} {t : Gap}
    (h : Everywhere (Shaped unit) [] (xs ++ z.withGap (t ++ z.gap) :: zs))
    (hunit : '\n' ∉ unit.chars) (hbefore : before = spell xs ++ t.chars)
    (hstart : before = [] ∨ before.getLast? = some '\n') :
    z.gap.chars = (indentGap unit (levelAt before.reverse z.char)).chars := by
  have hplace := h.at_split
  have hagree : Agree before.reverse (past [] xs) := by
    rw [hbefore]
    exact agree_spell_append h.placed.append_left t
  rw [hagree.levelAt_eq]
  rcases hstart with rfl | hlast
  · obtain ⟨hxs, -⟩ := List.append_eq_nil_iff.1 hbefore.symm
    have hnil : xs = [] := spell_inj hxs
    have hnone := Gap.eq_none_iff.1 (hplace.first (by rw [hnil]; rfl))
    rw [Glyph.gap_withGap, Gap.chars_append, List.append_eq_nil_iff] at hnone
    rw [hnil, past_nil, levelAt_nil]
    exact hnone.2
  · exact gap_of_level hplace (eq_concat_newline hbefore hlast) hunit

/-- Where a line begins stands the indentation of its nesting, unless the text is at its end. -/
theorem exists_margin (h : Everywhere (Shaped unit) [] gs) (hunit : '\n' ∉ unit.chars)
    {before cs : List Char} (htext : spell gs = before ++ cs)
    (hstart : before = [] ∨ before.getLast? = some '\n') :
    (before = [] ∧ cs = []) ∨ ∃ c rest, Text.isBlank c = false ∧
      cs = (indentGap unit (levelAt before.reverse c)).chars ++ c :: rest := by
  obtain ⟨t, hbefore⟩ := exists_spelling before
  obtain ⟨tail, hcs⟩ := exists_spelling cs
  generalize glyphs before = xs at hbefore
  generalize glyphs cs = zs at hcs
  cases zs with
  | nil =>
    left
    rw [spell_nil, List.nil_append] at hcs
    have hsame : spell gs = spell xs ++ (t ++ tail).chars := by
      rw [htext, hbefore, hcs, Gap.chars_append, List.append_assoc]
    have hnone := Gap.eq_none_iff.1 (eq_of_spell_eq_append hsame).2
    obtain ⟨ht, htail⟩ := List.append_eq_nil_iff.1 hnone
    rw [ht, List.append_nil] at hbefore
    rw [htail] at hcs
    refine ⟨hstart.resolve_right ?_, hcs⟩
    rw [hbefore]
    exact getLast?_spell_ne xs
  | cons z zs =>
    right
    have hsame : spell gs = spell (xs ++ z.withGap (t ++ z.gap) :: zs) ++ tail.chars := by
      rw [htext, hcs]
      conv => lhs; rw [hbefore]
      simp [spell]
    rw [(eq_of_spell_eq_append hsame).1] at h
    refine ⟨z.char, spell zs ++ tail.chars, z.inked, ?_⟩
    rw [hcs, spell, List.append_assoc, List.cons_append, gap_of_line_start h hunit hbefore hstart]

theorem IsLine.eq_margin_append {cs before line after : List Char}
    (hl : IsLine cs before line after) {w : List Char} (hw : '\n' ∉ w) {c : Char}
    (hc : Text.isBlank c = false) {rest : List Char} (h : line ++ after = w ++ c :: rest) :
    ∃ more, line = w ++ c :: more := by
  have hne : c ≠ '\n' := (Text.ne_of_isBlank (by decide) hc).symm
  rcases List.append_eq_append_iff.1 h with ⟨a, hwa, hafter⟩ | ⟨a, hline, ha⟩
  · rcases hl.stop with hnil | hhead
    · rw [hnil] at hafter
      simp at hafter
    · rw [hafter] at hhead
      cases a with
      | nil => exact absurd (Option.some.inj hhead) hne
      | cons d a =>
        have hd : d = '\n' := Option.some.inj hhead
        exact absurd (by simp [hwa, hd]) hw
  · cases a with
    | nil =>
      rw [List.nil_append] at ha
      rcases hl.stop with hnil | hhead
      · rw [hnil] at ha
        cases ha
      · rw [← ha] at hhead
        exact absurd (Option.some.inj hhead) hne
    | cons d a =>
      have hd : c = d := (List.cons.inj ha).1
      exact ⟨a, by rw [hline, hd]⟩

theorem margin_of_line (h : Everywhere (Shaped unit) [] gs) (hunit : '\n' ∉ unit.chars)
    {before line after : List Char} (hl : IsLine (spell gs) before line after) :
    line.takeWhile Text.isBlank = (indentGap unit (lineLevel before line)).chars := by
  rcases exists_margin h hunit hl.text hl.start with ⟨rfl, hnil⟩ | ⟨c, rest, hc, hcs⟩
  · obtain ⟨rfl, -⟩ := List.append_eq_nil_iff.1 hnil
    rfl
  · obtain ⟨more, hline⟩ := hl.eq_margin_append (newline_notMem_indentGap hunit _) hc hcs
    have hlevel : lineLevel before line = levelAt before.reverse c := by
      rw [lineLevel, hline, Text.trimLeft_blank_append (Gap.blank _), Text.trimLeft_cons hc,
        List.head?_cons, levelAt]
      by_cases hbrace : c = '\x7d' <;> simp [hbrace]
    rw [hlevel]
    conv => lhs; rw [hline]
    rw [List.takeWhile_append_of_pos (Gap.blank _), List.takeWhile_cons_of_neg (by simp [hc]),
      List.append_nil]

/-- **The layout mirrors the nesting of braces.** -/
theorem format_mirrors_nesting (style : Style) (h : ∀ c ∈ style.indent, c = ' ' ∨ c = '\t')
    (text : String) (hplain : isPlain text.toList = false) {before line after : List Char}
    (hl : IsLine (format style text).toList before line after) :
    MirrorsNesting style before line := by
  obtain ⟨out, hout, hpaired⟩ := exists_layout_spelling style h hplain
  rw [format, String.toList_ofList, hout] at hl
  have hshaped := shaped_of_laid hpaired
  refine ⟨?_, ?_, ?_⟩
  · rintro u c v rfl h0 hc
    exact eq_nil_of_separator hshaped hl h0 hc
  · rintro u v rfl h0
    exact isBlank_of_closing hshaped hl h0
  · have hunit : '\n' ∉ (style.unit h).chars := by
      intro hin
      rcases h _ hin with he | he <;> cases he
    exact margin_of_line hshaped hunit hl

/-- A wrapped line inside of brackets, in a text whose braces do not match. -/
theorem format_mirrors_nesting_of_wrapped_line :
    let style : Style := ⟨[' ', ' '], 6⟩
    let text := "\x7d\x7b a<\x7bx\x7d|y =>>; b"
    let before := "\x7d \x7b\n  a<\x7b x \x7d\n".toList
    let line := "  | y => >;".toList
    let after := "\n  b".toList
    (∀ c ∈ style.indent, c = ' ' ∨ c = '\t') ∧ isPlain text.toList = false ∧
      IsLine (format style text).toList before line after ∧ MirrorsNesting style before line := by
  intro style text before line after
  have hindent : ∀ c ∈ style.indent, c = ' ' ∨ c = '\t' := by simp [style]
  have hplain : isPlain text.toList = false := by decide
  have hline : IsLine (format style text).toList before line after :=
    ⟨by decide, .inr (by decide), by decide, .inr (by decide)⟩
  exact ⟨hindent, hplain, hline, format_mirrors_nesting style hindent text hplain hline⟩

end TypeMismatch.Layout
