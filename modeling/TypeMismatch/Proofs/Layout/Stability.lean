import TypeMismatch.Proofs.Layout.Block

/-!
# Laying out twice

A block is laid out again as it is, with one exception (`format_format_eq_iff`).  An arrow whose two
characters stand apart is joined when the delimiters are tightened, after the blanks around arrows
were dropped: the blanks in front of it stay and get another one.  The second time the arrow stands
together and the blanks go, so from the second time on nothing changes.
-/

namespace TypeMismatch.Layout

/-! ## Lists of glyphs with the same lines -/

/-- Two gaps that make the same lines: both end a line, or they are the same.  The first gap of a
text makes no difference. -/
def Alike (before : List Char) (g h : Glyph) : Prop :=
  before = [] ∨ (g.gap.Breaks ∧ h.gap.Breaks) ∨ g.gap = h.gap

theorem lineText_cons_congr {g h : Glyph} (same : g.char = h.char) (body : List Glyph) :
    lineText (g :: body) = lineText (h :: body) := by
  simp [lineText, flush, spell, same]

theorem exists_lines_alike {before : List Char} {g h : Glyph} {gs hs : List Glyph}
    (hp : Paired Alike (g.char :: before) gs hs) :
    ∃ body others others', lines (g :: gs) = (g :: body) :: others ∧
      lines (h :: hs) = (h :: body) :: others' ∧ others.map lineText = others'.map lineText := by
  generalize hseen : g.char :: before = seen at hp
  induction hp generalizing before g h with
  | nil => exact ⟨[], [], [], rfl, rfl, rfl⟩
  | @cons seen k l rest rest' same here there ih =>
    obtain ⟨body, others, others', hk, hl, hsame⟩ := @ih seen k l rfl
    -- behind the first glyph the gaps do make a difference
    have hone : seen ≠ [] := by rw [← hseen]; exact List.cons_ne_nil _ _
    by_cases hb : k.gap.Breaks
    · have hb' : l.gap.Breaks := by
        rcases here with hnil | ⟨-, hl⟩ | he
        · exact absurd hnil hone
        · exact hl
        · rwa [← he]
      refine ⟨[], (k :: body) :: others, (l :: body) :: others', ?_, ?_, ?_⟩
      · rw [lines, if_pos hb, hk]
      · rw [lines, if_pos hb', hl]
      · rw [List.map_cons, List.map_cons, hsame, lineText_cons_congr same]
    · have he : k.gap = l.gap := by
        rcases here with hnil | ⟨hk, -⟩ | he
        · exact absurd hnil hone
        · exact absurd hk hb
        · exact he
      obtain rfl : k = l := Glyph.ext he same
      refine ⟨k :: body, others, others', ?_, ?_, hsame⟩
      · rw [lines, if_neg hb, hk, consFirst]
      · rw [lines, if_neg hb, hl, consFirst]

theorem map_lineText_lines {before : List Char} {gs hs : List Glyph}
    (hp : Paired Alike before gs hs) : (lines gs).map lineText = (lines hs).map lineText := by
  cases hp with
  | nil => rfl
  | @cons _ g h gs hs same here there =>
    obtain ⟨body, others, others', hg, hh, hsame⟩ := exists_lines_alike (h := h) there
    rw [hg, hh, List.map_cons, List.map_cons, hsame, lineText_cons_congr same]

/-! ## Split arrows -/

/-- An arrow away from delimiters whose characters stand apart, with blanks in front of it. -/
structure IsSplit (before : List Char) (g : Glyph) (rest : List Glyph) : Prop where
  apart : isBeside before g.char = false
  head : g.char = '='
  next : nextChar rest = some '>'
  gap : g.gap ≠ Gap.none
  parted : rest.head?.any (isArrow g) = false

/-- No arrow of the glyphs is split. -/
def NoSplit (before : List Char) (gs : List Glyph) : Prop :=
  ∀ xs g ys, gs = xs ++ g :: ys → ¬ IsSplit (past before xs) g ys

theorem NoSplit.tail {before : List Char} {g : Glyph} {gs : List Glyph}
    (h : NoSplit before (g :: gs)) : NoSplit (g.char :: before) gs := by
  intro xs k ys he
  have hk := h (g :: xs) k ys (by rw [he]; rfl)
  rwa [past_cons] at hk

/-- The gap of a glyph that begins no split arrow. -/
theorem freshGap_of_not_split {before : List Char} {g : Glyph} {rest : List Glyph}
    (h : ¬ IsSplit before g rest) :
    freshGap before g rest =
      if isBeside before g.char then
        behind before (some g.char) ++ ahead before g.char (nextChar rest)
      else if g.char = '=' ∧ nextChar rest = some '>' then Gap.space
      else g.gap := by
  by_cases hbeside : isBeside before g.char = true
  · rw [if_pos hbeside, freshGap_beside hbeside]
  · have happart : isBeside before g.char = false := Bool.eq_false_iff.2 hbeside
    rw [if_neg hbeside, freshGap_apart happart]
    by_cases harrow : g.char = '=' ∧ nextChar rest = some '>'
    · rw [if_pos harrow, if_pos harrow]
      by_cases hjoined : rest.head?.any (isArrow g) = true
      · rw [if_pos hjoined]
      · have hnone : g.gap = Gap.none := Classical.byContradiction fun hgap =>
          h ⟨happart, harrow.1, harrow.2, hgap, Bool.eq_false_iff.2 hjoined⟩
        rw [if_neg hjoined, hnone, Gap.none_append]
    · rw [if_neg harrow, if_neg harrow]

/-- In a block no arrow is split: its characters stand together. -/
theorem noSplit_of_placed {gs : List Glyph} (h : Everywhere Placed [] gs) : NoSplit [] gs := by
  rintro xs g ys rfl hsplit
  cases ys with
  | nil => cases hsplit.next
  | cons k ys =>
    have hk : k.char = '>' := Option.some.inj hsplit.next
    have hglued : k.gap = Gap.none := h.at_next.glued hk (by rw [List.head?_cons, hsplit.head])
    have hparted := hsplit.parted
    rw [List.head?_cons, Option.any_some, isArrow_iff.2 ⟨hsplit.head, hk, hglued⟩] at hparted
    cases hparted

/-- Tightening and breaking a glyph of a block gives it a gap like the one that it was laid out
from. -/
theorem Laid.alike {unit : Gap} {before : List Char} {g h : Glyph} {gs hs : List Glyph}
    (hl : Laid unit before (g.withGap (freshGap before g gs)) h) (same : g.char = h.char)
    (hnext : nextChar gs = nextChar hs) (hg : ¬ IsSplit before g gs) (hh : ¬ IsSplit before h hs) :
    Alike before (g.withGap (freshGap before g gs)) (h.withGap (freshGap before h hs)) := by
  have hfresh := freshGap_of_not_split hh
  rw [← same, ← hnext] at hfresh
  rw [freshGap_of_not_split hg] at hl ⊢
  rw [hfresh, Alike, Glyph.gap_withGap, Glyph.gap_withGap]
  by_cases hbeside : isBeside before g.char = true
  · exact .inr (.inr (by rw [if_pos hbeside, if_pos hbeside]))
  · rw [if_neg hbeside] at hl ⊢
    rw [if_neg hbeside]
    by_cases harrow : g.char = '=' ∧ nextChar gs = some '>'
    · exact .inr (.inr (by rw [if_pos harrow, if_pos harrow]))
    · rw [if_neg harrow] at hl ⊢
      rw [if_neg harrow]
      have happart : isBeside before g.char = false := Bool.eq_false_iff.2 hbeside
      by_cases hbreaks : g.gap.Breaks
      · exact .inr (.inl ⟨hbreaks, hl.breaks (ne_nil_of_isBeside happart) hbreaks⟩)
      · exact .inr (.inr (hl.gap_eq happart hbreaks).symm)

theorem paired_alike {unit : Gap} {before : List Char} {gs hs : List Glyph}
    (hp : Paired (Laid unit) before (regap freshGap before gs) hs) (hgs : NoSplit before gs)
    (hhs : NoSplit before hs) :
    Paired Alike before (regap freshGap before gs) (regap freshGap before hs) := by
  induction gs generalizing before hs with
  | nil =>
    cases hp with
    | nil => exact .nil
  | cons g gs ih =>
    cases hp with
    | @cons _ _ h _ hs same here there =>
      rw [Glyph.char_withGap] at same there
      have hnext : nextChar gs = nextChar hs := by
        rw [nextChar_eq_head?, nextChar_eq_head?, ← there.ink_eq, ink_regap]
      have hrest := ih there hgs.tail (by rw [same]; exact hhs.tail)
      rw [regap, regap, ← same]
      exact .cons same (here.alike same hnext (hgs [] g gs rfl) (hhs [] h hs rfl)) hrest

/-! ## The second time -/

section

variable {style : Style} (h : ∀ c ∈ style.indent, c = ' ' ∨ c = '\t') {cs : List Char}
include h

/-- A text without split arrows is laid out once and for all. -/
theorem layout_layout_of_noSplit (hcs : isPlain cs = false)
    (hout : isPlain (layout style cs) = false) (hsplit : NoSplit [] (glyphs cs)) :
    layout style (layout style cs) = layout style cs := by
  obtain ⟨out, hspell, hp⟩ := exists_layout_spelling style h hcs
  -- the block depends on the lines only, and those are the same
  have halike := paired_alike hp hsplit (noSplit_of_placed (shaped_of_laid hp).placed)
  have hlines : indentLines style 0 0 (rawLines (layout style cs)) =
      indentLines style 0 0 (rawLines cs) := by
    rw [indentLines_rawLines, indentLines_rawLines, hspell, glyphs_spell,
      map_lineText_lines halike]
  have hblock : block style (layout style cs) = block style cs := by
    rw [block, hlines, block]
  have hfirst : layout style cs = block style cs := by rw [layout, hcs, if_neg Bool.false_ne_true]
  rw [layout, hout, if_neg Bool.false_ne_true, hblock, hfirst]

end

/-- The first layout puts one more blank behind those in front of a split arrow. -/
theorem Laid.gap_ne_space {unit : Gap} {before : List Char} {g k : Glyph} {rest : List Glyph}
    (hl : Laid unit before (g.withGap (freshGap before g rest)) k) (h : IsSplit before g rest) :
    k.gap ≠ Gap.space := by
  have hwide : freshGap before g rest = g.gap ++ Gap.space := by
    rw [freshGap_apart h.apart, if_pos ⟨h.head, h.next⟩, h.parted, if_neg Bool.false_ne_true]
  rw [hwide] at hl
  intro hspace
  by_cases hbreaks : (g.gap ++ Gap.space).Breaks
  · have hbroken := hl.breaks (ne_nil_of_isBeside h.apart) hbreaks
    rw [hspace] at hbroken
    exact Gap.not_breaks_space hbroken
  · have hkept := hl.gap_eq h.apart hbreaks
    rw [hspace, Glyph.gap_withGap, Gap.ext_iff, Gap.chars_append, List.self_eq_append_left] at hkept
    exact h.gap (Gap.eq_none_iff.2 hkept)

/-- A layout puts one blank in front of an arrow that is not split. -/
theorem Laid.gap_eq_space {unit : Gap} {before : List Char} {g k : Glyph} {rest : List Glyph}
    (hl : Laid unit before (g.withGap (freshGap before g rest)) k) (h : ¬ IsSplit before g rest)
    (happart : isBeside before g.char = false) (hhead : g.char = '=')
    (hnext : nextChar rest = some '>') : k.gap = Gap.space := by
  rw [freshGap_of_not_split h, happart, if_neg Bool.false_ne_true, if_pos ⟨hhead, hnext⟩] at hl
  exact hl.gap_eq happart Gap.not_breaks_space

/-- At a split arrow the second layout differs from the first one. -/
theorem layout_layout_ne_of_isSplit {style : Style} (h : ∀ c ∈ style.indent, c = ' ' ∨ c = '\t')
    {cs : List Char} (hcs : isPlain cs = false) (hout : isPlain (layout style cs) = false)
    {xs ys : List Glyph} {g : Glyph} (hgs : glyphs cs = xs ++ g :: ys)
    (hsplit : IsSplit (past [] xs) g ys) : layout style (layout style cs) ≠ layout style cs := by
  intro heq
  obtain ⟨out, hspell, hp⟩ := exists_layout_spelling style h hcs
  obtain ⟨again, hspell', hp'⟩ := exists_layout_spelling style h hout
  have hsame : again = out := spell_inj (by rw [← hspell', heq, hspell])
  obtain ⟨xs', k, ys', hk, hxs, hchar, hys, hlaid⟩ := exists_laid_place hp hgs
  rw [hspell, glyphs_spell, hsame] at hp'
  obtain ⟨zs, l, zs', hl, hzs, -, -, hlaid'⟩ := exists_laid_place hp' hk
  -- the two places are one, since as many characters stand before them
  have hlength : xs'.length = zs.length := by simpa [ink] using congrArg List.length hzs
  obtain ⟨-, hrest⟩ := List.append_inj (hk.symm.trans hl) hlength
  obtain rfl : k = l := (List.cons.inj hrest).1
  have happart : isBeside (past [] xs') k.char = false := by
    rw [past_congr hxs.symm, ← hchar]
    exact hsplit.apart
  have hnext : nextChar ys' = some '>' := by
    rw [nextChar_eq_head?, ← hys, ← nextChar_eq_head?, hsplit.next]
  have hnosplit := noSplit_of_placed (shaped_of_laid hp).placed xs' k ys' hk
  exact hlaid.gap_ne_space hsplit
    (hlaid'.gap_eq_space hnosplit happart (hchar.symm.trans hsplit.head) hnext)

/-! ## Split arrows of a text -/

/-- A text with an arrow whose two characters have blanks between them, behind blanks and a
character that is no delimiter. -/
def HasSplitArrow (cs : List Char) : Prop :=
  ∃ u c v w rest, cs = u ++ c :: (v ++ '=' :: (w ++ '>' :: rest)) ∧
    Text.isBlank c = false ∧ isTight c = false ∧
    v ≠ [] ∧ (∀ d ∈ v, Text.isBlank d = true) ∧ w ≠ [] ∧ (∀ d ∈ w, Text.isBlank d = true)

theorem HasSplitArrow.of_isSplit {cs : List Char} {xs ys : List Glyph} {g : Glyph}
    (hgs : glyphs cs = xs ++ g :: ys) (hsplit : IsSplit (past [] xs) g ys) : HasSplitArrow cs := by
  obtain ⟨tail, htext⟩ := exists_spelling cs
  rw [hgs] at htext
  rcases List.eq_nil_or_concat xs with rfl | ⟨init, x, rfl⟩
  · exact absurd rfl (ne_nil_of_isBeside hsplit.apart)
  · have hx : isTight x.char = false := by
      have happart := hsplit.apart
      rw [isBeside, List.concat_eq_append, past_append, past_cons, past_nil, List.head?_cons,
        Option.all_some, Bool.or_eq_false_iff] at happart
      exact happart.1
    cases ys with
    | nil => cases hsplit.next
    | cons k ys =>
      have hk : k.char = '>' := Option.some.inj hsplit.next
      have hgap : k.gap ≠ Gap.none := by
        intro hnone
        have hparted := hsplit.parted
        rw [List.head?_cons, Option.any_some, isArrow_iff.2 ⟨hsplit.head, hk, hnone⟩] at hparted
        cases hparted
      refine ⟨spell init ++ x.gap.chars, x.char, g.gap.chars, k.gap.chars, spell ys ++ tail.chars,
        ?_, x.inked, hx, ?_, g.gap.blank, ?_, k.gap.blank⟩
      · rw [htext]
        simp [spell, hsplit.head, hk]
      · intro he
        exact hsplit.gap (Gap.eq_none_iff.2 he)
      · intro he
        exact hgap (Gap.eq_none_iff.2 he)

theorem HasSplitArrow.exists_isSplit {cs : List Char} (h : HasSplitArrow cs) :
    ∃ xs g ys, glyphs cs = xs ++ g :: ys ∧ IsSplit (past [] xs) g ys := by
  obtain ⟨u, c, v, w, rest, rfl, hc, ht, hv, hvb, hw, hwb⟩ := h
  obtain ⟨p, -, hsplit⟩ := exists_glyphs_append u (v ++ '=' :: (w ++ '>' :: rest)) hc
  have heq := glyphs_glyph_append ⟨⟨v, hvb⟩, '=', by decide⟩ (w ++ '>' :: rest)
  have hgt := glyphs_glyph_append ⟨⟨w, hwb⟩, '>', by decide⟩ rest
  rw [hgt] at heq
  rw [heq] at hsplit
  refine ⟨glyphs u ++ [⟨p, c, hc⟩], ⟨⟨v, hvb⟩, '=', by decide⟩,
    ⟨⟨w, hwb⟩, '>', by decide⟩ :: glyphs rest, ?_, ⟨?_, rfl, rfl, ?_, ?_⟩⟩
  · rw [hsplit, List.append_assoc, List.singleton_append]
  · rw [past_append, past_cons, past_nil, isBeside, List.head?_cons, Option.all_some, ht]
    rfl
  · intro he
    exact hv (Gap.eq_none_iff.1 he)
  · simp [isArrow, hw]

/-! ## Main statement -/

section

variable {style : Style} (h : ∀ c ∈ style.indent, c = ' ' ∨ c = '\t')
include h

theorem layout_layout_eq_iff (cs : List Char) :
    layout style (layout style cs) = layout style cs ↔
      isPlain cs = true ∨ isPlain (layout style cs) = true ∨ ¬ HasSplitArrow cs := by
  by_cases hcs : isPlain cs = true
  · have hkept : layout style cs = cs := by rw [layout, if_pos hcs]
    rw [hkept]
    exact ⟨fun _ => .inl hcs, fun _ => hkept⟩
  · by_cases hout : isPlain (layout style cs) = true
    · have hkept : layout style (layout style cs) = layout style cs := by
        conv => lhs; rw [layout, if_pos hout]
      exact ⟨fun _ => .inr (.inl hout), fun _ => hkept⟩
    · rw [Bool.not_eq_true] at hcs hout
      constructor
      · intro heq
        refine .inr (.inr fun harrow => ?_)
        obtain ⟨xs, g, ys, hgs, hsplit⟩ := harrow.exists_isSplit
        exact layout_layout_ne_of_isSplit h hcs hout hgs hsplit heq
      · rintro (hplain | hplain | hno)
        · rw [hcs] at hplain
          cases hplain
        · rw [hout] at hplain
          cases hplain
        · exact layout_layout_of_noSplit h hcs hout fun xs g ys hgs hsplit =>
            hno (.of_isSplit hgs hsplit)

/-- The third layout is the second one. -/
theorem layout_stable (cs : List Char) :
    layout style (layout style (layout style cs)) = layout style (layout style cs) := by
  by_cases hcs : isPlain cs = true
  · have hkept : layout style cs = cs := by rw [layout, if_pos hcs]
    rw [hkept, hkept]
    exact hkept
  · obtain ⟨out, hspell, hp⟩ := exists_layout_spelling style h (Bool.eq_false_iff.2 hcs)
    have hno : NoSplit [] out := noSplit_of_placed (shaped_of_laid hp).placed
    rw [layout_layout_eq_iff h]
    refine .inr (.inr fun harrow => ?_)
    obtain ⟨xs, g, ys, hgs, hsplit⟩ := harrow.exists_isSplit
    rw [hspell, glyphs_spell] at hgs
    exact hno xs g ys hgs hsplit

end

/-- **A text that was laid out stays as it is, unless it had a split arrow.**  Short texts and short
results that are plain are never touched; all others change exactly if there is one.  After the
second time nothing changes. -/
theorem format_format_eq_iff (style : Style) (h : ∀ c ∈ style.indent, c = ' ' ∨ c = '\t')
    (text : String) :
    (format style (format style text) = format style text ↔
        isPlain text.toList = true ∨ isPlain (format style text).toList = true ∨
          ¬ HasSplitArrow text.toList) ∧
      (isFormatted style (format style text) = true ↔
        format style (format style text) = format style text) ∧
      format style (format style (format style text)) = format style (format style text) := by
  have hlist : ∀ cs : String, (format style cs).toList = layout style cs.toList := fun cs => by
    rw [format, String.toList_ofList]
  refine ⟨?_, ?_, ?_⟩
  · rw [← String.toList_inj, hlist, hlist]
    exact layout_layout_eq_iff h text.toList
  · rw [isFormatted, beq_iff_eq]
  · rw [← String.toList_inj, hlist, hlist, hlist]
    exact layout_stable h text.toList

theorem format_format_eq_iff_of_split_arrow :
    let style : Style := ⟨[' ', '\t'], 80⟩
    let text := "\x7b a\t= > b \x7d"
    (∀ c ∈ style.indent, c = ' ' ∨ c = '\t') ∧
      (format style (format style text) = format style text ↔
        isPlain text.toList = true ∨ isPlain (format style text).toList = true ∨
          ¬ HasSplitArrow text.toList) ∧
      (isFormatted style (format style text) = true ↔
        format style (format style text) = format style text) ∧
      format style (format style (format style text)) = format style (format style text) := by
  intro style text
  have hindent : ∀ c ∈ style.indent, c = ' ' ∨ c = '\t' := by simp [style]
  exact ⟨hindent, format_format_eq_iff style hindent text⟩

/-- Formatting is not idempotent: a blank in front of a split arrow stays at first. -/
theorem format_format_ne_of_split_arrow :
    let style : Style := ⟨[' ', ' '], 80⟩
    let text := "a = > b;"
    (∀ c ∈ style.indent, c = ' ' ∨ c = '\t') ∧ HasSplitArrow text.toList ∧
      format style text = "a  => b;" ∧
      format style (format style text) = "a => b;" ∧
      isFormatted style (format style text) = false ∧
      ¬ ∀ (style : Style) (text : String), (∀ c ∈ style.indent, c = ' ' ∨ c = '\t') →
        format style (format style text) = format style text := by
  intro style text
  have hindent : ∀ c ∈ style.indent, c = ' ' ∨ c = '\t' := by simp [style]
  have hne : format style (format style text) ≠ format style text := by decide
  refine ⟨hindent, ?_, by decide, by decide, by decide, fun hall => hne (hall style text hindent)⟩
  exact ⟨[], 'a', [' '], [' '], " b;".toList, by decide, rfl, rfl, by decide, Gap.space.blank,
    by decide, Gap.space.blank⟩

end TypeMismatch.Layout
