import TypeMismatch.Proofs.Layout.Block

/-!
# Layout keeps the words

Laying out changes blanks only, and it does not glue words together: two characters that have blanks
between them and are no delimiters have blanks between them afterwards (`format_keeps_words`).  An
arrow is the one place where a gap is dropped and put in again, and there the gap is never empty.
-/

namespace TypeMismatch.Layout

/-- The characters `a` and `b` follow each other in a text with blanks between them; `before` and
`after` are its other characters. -/
def Apart (cs before : List Char) (a b : Char) (after : List Char) : Prop :=
  ∃ u w v, cs = u ++ a :: (w ++ b :: v) ∧ w ≠ [] ∧ (∀ c ∈ w, Text.isBlank c = true) ∧
    Text.isBlank a = false ∧ Text.isBlank b = false ∧
    Text.withoutBlanks u = before ∧ Text.withoutBlanks v = after

theorem apart_iff {cs before : List Char} {a b : Char} {after : List Char} :
    Apart cs before a b after ↔
      ∃ xs x y ys, glyphs cs = xs ++ x :: y :: ys ∧ x.char = a ∧ y.char = b ∧ y.gap ≠ Gap.none ∧
        ink xs = before ∧ ink ys = after := by
  constructor
  · rintro ⟨u, w, v, rfl, hne, hw, ha, hb, rfl, rfl⟩
    obtain ⟨p, -, hsplit⟩ := exists_glyphs_append u (w ++ b :: v) ha
    have hnext := glyphs_glyph_append ⟨⟨w, hw⟩, b, hb⟩ v
    rw [hnext] at hsplit
    refine ⟨_, _, _, _, hsplit, rfl, rfl, ?_, ?_, ?_⟩
    · intro he
      exact hne (Gap.eq_none_iff.1 he)
    · exact (withoutBlanks_eq_ink u).symm
    · exact (withoutBlanks_eq_ink v).symm
  · rintro ⟨xs, x, y, ys, hsplit, rfl, rfl, hgap, rfl, rfl⟩
    obtain ⟨tail, htext⟩ := exists_spelling cs
    rw [hsplit] at htext
    refine ⟨spell xs ++ x.gap.chars, y.gap.chars, spell ys ++ tail.chars, ?_, ?_, y.gap.blank,
      x.inked, y.inked, ?_, ?_⟩
    · rw [htext]
      simp [spell]
    · intro he
      exact hgap (Gap.eq_none_iff.2 he)
    · rw [Text.withoutBlanks_append, withoutBlanks_spell, Text.withoutBlanks_of_blank x.gap.blank,
        List.append_nil]
    · rw [Text.withoutBlanks_append, withoutBlanks_spell, Text.withoutBlanks_of_blank tail.blank,
        List.append_nil]

/-- Away from delimiters the passes before indenting leave blanks where there were some. -/
theorem freshGap_ne_none {before : List Char} {g : Glyph} (h : isBeside before g.char = false)
    (hg : g.gap ≠ Gap.none) (rest : List Glyph) : freshGap before g rest ≠ Gap.none := by
  have hend : ∀ w : Gap, w ++ Gap.space ≠ Gap.none := by
    intro w he
    rw [Gap.eq_none_iff] at he
    simp at he
  rw [freshGap_apart h]
  split
  · split
    · exact hend Gap.none
    · exact hend g.gap
  · exact hg

theorem ink_layout (style : Style) (h : ∀ c ∈ style.indent, c = ' ' ∨ c = '\t') (cs : List Char) :
    Text.withoutBlanks (layout style cs) = Text.withoutBlanks cs := by
  by_cases hcs : isPlain cs = true
  · rw [layout, if_pos hcs]
  · obtain ⟨out, hout, hpaired⟩ := exists_layout_spelling style h (Bool.eq_false_iff.2 hcs)
    rw [hout, withoutBlanks_spell, ← hpaired.ink_eq, ink_regap, withoutBlanks_eq_ink]

theorem apart_layout (style : Style) (h : ∀ c ∈ style.indent, c = ' ' ∨ c = '\t') {cs : List Char}
    {before : List Char} {a b : Char} {after : List Char} (ha : isTight a = false)
    (hb : isTight b = false) (hapart : Apart cs before a b after) :
    Apart (layout style cs) before a b after := by
  by_cases hcs : isPlain cs = true
  · rwa [layout, if_pos hcs]
  · obtain ⟨out, hout, hpaired⟩ := exists_layout_spelling style h (Bool.eq_false_iff.2 hcs)
    obtain ⟨xs, x, y, ys, hsplit, rfl, rfl, hgap, rfl, rfl⟩ := apart_iff.1 hapart
    obtain ⟨zs, k, ys', hplace, hzs, hchar, hys, hlaid⟩ :=
      exists_laid_place hpaired (show glyphs cs = (xs ++ [x]) ++ y :: ys by simp [hsplit])
    have hpast : past [] (xs ++ [x]) = x.char :: past [] xs := by simp
    have hbeside : isBeside (past [] (xs ++ [x])) y.char = false := by
      simp [isBeside, hpast, ha, hb]
    have hkept : k.gap ≠ Gap.none := hlaid.gap_ne_none hbeside (freshGap_ne_none hbeside hgap ys)
    rw [ink_append] at hzs
    obtain ⟨xs', ws, rfl, hxs, hws⟩ := List.map_eq_append_iff.1 hzs.symm
    obtain ⟨x', rfl, hx⟩ := List.map_eq_singleton_iff.1 hws
    rw [apart_iff, hout, glyphs_spell, hplace]
    exact ⟨xs', x', k, ys', by simp, hx, hchar.symm, hkept, hxs, hys.symm⟩

/-- **Layout loses, adds and reorders nothing**, and it glues no two words together. -/
theorem format_keeps_words (style : Style) (h : ∀ c ∈ style.indent, c = ' ' ∨ c = '\t')
    (text : String) :
    Text.withoutBlanks (format style text).toList = Text.withoutBlanks text.toList ∧
      ∀ before a b after, isTight a = false → isTight b = false →
        Apart text.toList before a b after → Apart (format style text).toList before a b after := by
  rw [format, String.toList_ofList]
  refine ⟨ink_layout style h text.toList, ?_⟩
  intro before a b after ha hb hapart
  exact apart_layout style h ha hb hapart

/-- A word in front of an arrow, whose blank is dropped and put in again. -/
theorem format_keeps_words_at_arrow :
    let style : Style := ⟨[' ', '\t'], 80⟩
    let text := "\x7b key=>old  => new; big Map \x7d"
    (∀ c ∈ style.indent, c = ' ' ∨ c = '\t') ∧
      Apart text.toList "\x7bkey=>ol".toList 'd' '=' ">new;bigMap\x7d".toList ∧
      Text.withoutBlanks (format style text).toList = "\x7bkey=>old=>new;bigMap\x7d".toList ∧
      Apart (format style text).toList "\x7bkey=>ol".toList 'd' '=' ">new;bigMap\x7d".toList := by
  intro style text
  have hindent : ∀ c ∈ style.indent, c = ' ' ∨ c = '\t' := by simp [style]
  have hapart : Apart text.toList "\x7bkey=>ol".toList 'd' '=' ">new;bigMap\x7d".toList :=
    ⟨"\x7b key=>ol".toList, [' ', ' '], "> new; big Map \x7d".toList, by decide, by decide,
      (Gap.space ++ Gap.space).blank, rfl, rfl, by decide, by decide⟩
  obtain ⟨hink, hwords⟩ := format_keeps_words style hindent text
  exact ⟨hindent, hapart, hink.trans (by decide), hwords _ _ _ _ rfl rfl hapart⟩

end TypeMismatch.Layout
