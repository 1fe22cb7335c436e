import TypeMismatch.Proofs.Layout.Indent

/-!
# What laying out does to the glyphs

The passes one after the other.  The block of a text is spelled by the glyphs of its broken text
with new gaps (`exists_block_spelling`): nothing in front of the first glyph, a line break and an
indentation where a line ends, and what it was elsewhere, but for the gaps beside bars.  So each gap
of a block that ends a line is the indentation of its nesting, and nothing else (`Shaped`).
-/

namespace TypeMismatch.Layout

theorem tight_regap (before : List Char) (gs : List Glyph) : Tight (regap tightGap before gs) := by
  induction gs generalizing before with
  | nil => intro g hg; cases hg
  | cons g gs ih =>
    intro k hk ht
    rw [regap, List.mem_cons] at hk
    rcases hk with rfl | hk
    · simp only [Glyph.char_withGap] at ht
      simp [tightGap, isTightPlace, ht]
    · exact ih _ k hk ht

theorem tight_tightened (gs : List Glyph) : Tight (tightened gs) := tight_regap [] gs

/-! ## Tightening and breaking together -/

/-- The gap of a glyph once the text is tightened and broken. -/
def freshGap (before : List Char) (g : Glyph) (rest : List Glyph) : Gap :=
  behind before (some g.char) ++ tightGap before g rest ++ ahead before g.char (nextChar rest)

theorem regap_brokenGap_tightGap (before : List Char) (gs : List Glyph) :
    regap brokenGap before (regap tightGap before gs) = regap freshGap before gs := by
  induction gs generalizing before with
  | nil => rfl
  | cons g gs ih =>
    have hgap : brokenGap before (g.withGap (tightGap before g gs))
        (regap tightGap (g.char :: before) gs) = freshGap before g gs := by
      rw [brokenGap, nextChar_regap]
      rfl
    rw [regap, regap, hgap, Glyph.char_withGap, ih, regap]
    rfl

theorem broken_tightened (gs : List Glyph) : broken (tightened gs) = regap freshGap [] gs :=
  regap_brokenGap_tightGap [] gs

/-- Does a character stand at the start of the text or beside a delimiter? -/
def isBeside (before : List Char) (c : Char) : Bool := before.head?.all isTight || isTight c

/-- Beside a delimiter the old gap does not matter. -/
theorem freshGap_beside {before : List Char} {g : Glyph} (h : isBeside before g.char = true)
    (rest : List Glyph) :
    freshGap before g rest =
      behind before (some g.char) ++ ahead before g.char (nextChar rest) := by
  have htight : tightGap before g rest = Gap.none := by
    rw [tightGap, isTightPlace, if_pos]
    rw [isBeside] at h
    rw [h, Bool.true_or]
  rw [freshGap, htight, Gap.append_none]

theorem ne_of_isBeside {before : List Char} {c : Char} (h : isBeside before c = false) :
    ∃ p before', before = p :: before' ∧ isTight p = false ∧ isTight c = false := by
  cases before with
  | nil => simp [isBeside] at h
  | cons p before' => exact ⟨p, before', rfl, by simpa [isBeside] using h⟩

theorem ne_nil_of_isBeside {before : List Char} {c : Char} (h : isBeside before c = false) :
    before ≠ [] := by
  rintro rfl
  cases h

theorem ne_of_isTight {c d : Char} (hc : isTight c = false) (hd : isTight d = true) : c ≠ d := by
  rintro rfl
  rw [hc] at hd
  cases hd

theorem behind_apart {before : List Char} {c : Char} (h : isBeside before c = false)
    (next : Option Char) : behind before next = Gap.none := by
  obtain ⟨p, before', rfl, hp, -⟩ := ne_of_isBeside h
  apply behind_ordinary
  · cases hends : endsLine p
    · rfl
    · rw [isTight_of_endsLine hends] at hp
      cases hp
  · rintro ⟨rfl, -⟩
    exact absurd hp (by decide)

theorem ahead_apart {before : List Char} {c : Char} (h : isBeside before c = false)
    (next : Option Char) :
    ahead before c next = if c = '=' ∧ next = some '>' then Gap.space else Gap.none := by
  obtain ⟨p, before', rfl, -, hc⟩ := ne_of_isBeside h
  have hopen : c ≠ '\x7b' := ne_of_isTight hc rfl
  have hclose : c ≠ '\x7d' := ne_of_isTight hc rfl
  have hbar : c ≠ '|' := ne_of_isTight hc rfl
  simp [ahead, hopen, hclose, hbar]

/-- Away from delimiters a gap stays, but for an arrow: there a blank is put behind it, or in its
place. -/
theorem freshGap_apart {before : List Char} {g : Glyph} (h : isBeside before g.char = false)
    (rest : List Glyph) :
    freshGap before g rest =
      if g.char = '=' ∧ nextChar rest = some '>' then
        if rest.head?.any (isArrow g) then Gap.space else g.gap ++ Gap.space
      else g.gap := by
  rw [freshGap, behind_apart h, ahead_apart h, Gap.none_append, tightGap, isTightPlace]
  rw [isBeside] at h
  rw [h, Bool.false_or]
  by_cases harrow : rest.head?.any (isArrow g) = true
  · obtain ⟨k, hk, hgk⟩ := (Option.any_eq_true _ _).1 harrow
    obtain ⟨hg, hchar, -⟩ := isArrow_iff.1 hgk
    have hnext : nextChar rest = some '>' := by rw [nextChar, hk, Option.map_some, hchar]
    simp [harrow, hg, hnext]
  · simp only [harrow, Bool.false_eq_true, ↓reduceIte]
    split <;> simp

/-! ## The block -/

/-- How the gap of a glyph changes from the broken text to the block. -/
structure Laid (unit : Gap) (before : List Char) (g h : Glyph) : Prop where
  first : before = [] → h.gap = Gap.none
  onNewLine : before ≠ [] → g.gap.Breaks → h.gap = edge (indentGap unit (levelAt before g.char))
  inLine : before ≠ [] → ¬ g.gap.Breaks →
    Rewrapped (edge (indentGap unit (openBraces before))) before g h

theorem Indented.laid {unit : Gap} {before : List Char} {g h : Glyph} (hne : before ≠ [])
    (hi : Indented unit before g h) : Laid unit before g h where
  first := fun hnil => absurd hnil hne
  onNewLine := fun _ hb => by rwa [Indented, if_pos (.inr hb)] at hi
  inLine := fun _ hb => by
    rwa [Indented, if_neg] at hi
    rintro (hnil | h)
    · exact hne hnil
    · exact hb h

theorem Paired.laid {unit : Gap} {gs hs : List Glyph} (h : Paired (Indented unit) [] gs hs) :
    Paired (Laid unit) [] gs (flush hs) := by
  cases h with
  | nil => exact .nil
  | cons same here there =>
    have hfirst : ∀ {g k : Glyph}, k.gap = Gap.none → Laid unit [] g k := fun hk =>
      ⟨fun _ => hk, fun hne => absurd rfl hne, fun hne => absurd rfl hne⟩
    have hrest := there.mono_behind (List.cons_ne_nil _ _) fun _ _ _ => Indented.laid
    exact .cons same (hfirst rfl) hrest

/-- Trimming takes the line break in front of the first line. -/
theorem trim_joinWith_newline (ls : List (List Char)) :
    Text.trim (Text.joinWith ['\n'] ls) = Text.trim (ls.flatMap ('\n' :: ·)) := by
  by_cases h : ls = []
  · rw [h]
    rfl
  · have hjoin := Text.append_joinWith ['\n'] h
    simp only [List.singleton_append] at hjoin
    rw [← hjoin]
    exact (Text.trim_blank_append Gap.newline.blank _).symm

/-- What is indented are the lines of the glyphs. -/
theorem indentLines_rawLines (style : Style) (cs : List Char) :
    indentLines style 0 0 (rawLines cs) =
      indentLines style 0 0 ((lines (regap freshGap [] (glyphs cs))).map lineText) := by
  obtain ⟨tail, hbroken⟩ := breakLines_tightened cs (tight_tightened (glyphs cs))
  rw [← broken_tightened, ← textLines_spell _ tail, ← hbroken, rawLines, ← indentLines_textLines]
  rfl

/-- **The block of a text is spelled by the glyphs of its broken text**, laid out anew. -/
theorem exists_block_spelling (unit : Gap) (limit : Nat) (cs : List Char) :
    ∃ out, block ⟨unit.chars, limit⟩ cs = spell out ∧
      Paired (Laid unit) [] (regap freshGap [] (glyphs cs)) out := by
  have hplaced : Everywhere Placed [] (lines (regap freshGap [] (glyphs cs))).flatten := by
    rw [flatten_lines, ← broken_tightened]
    exact placed_broken (tight_tightened (glyphs cs))
  obtain ⟨out, hout, hpaired⟩ := exists_indent_spelling unit limit (lined_lines _) hplaced
    fun line hline => by
      cases hgs : regap freshGap [] (glyphs cs) with
      | nil => rw [hgs] at hline; cases hline
      | cons g rest =>
        obtain ⟨body, others, he⟩ := lines_cons g rest
        rw [hgs, he] at hline
        exact ⟨g, body, (Option.some.inj hline).symm, .inl rfl⟩
  rw [flatten_lines] at hpaired
  refine ⟨flush out, ?_, hpaired.laid⟩
  rw [block, trim_joinWith_newline, indentLines_rawLines, ← trim_spell, ← hout]
  rfl

/-! ## The gaps of a block -/

/-- A glyph of a block: it stands as in the broken text, nothing stands in front of the first one,
and a gap that ends a line is a line break and the indentation of its nesting. -/
structure Shaped (unit : Gap) (before : List Char) (g : Glyph) : Prop where
  placed : Placed before g
  first : before = [] → g.gap = Gap.none
  level : g.gap.Breaks → g.gap = edge (indentGap unit (levelAt before g.char))

theorem breaks_edge (w : Gap) : (edge w).Breaks := by simp [Gap.Breaks]

theorem Laid.breaks {unit : Gap} {before : List Char} {g h : Glyph} (hl : Laid unit before g h)
    (hne : before ≠ []) (hb : g.gap.Breaks) : h.gap.Breaks := by
  rw [hl.onNewLine hne hb]
  exact breaks_edge _

/-- Away from bars a gap within a line stays. -/
theorem Rewrapped.gap_eq {w : Gap} {before : List Char} {g h : Glyph} (hr : Rewrapped w before g h)
    (hg : g.char ≠ '|') (hb : before.head? ≠ some '|') : h.gap = g.gap := by
  rcases hr with he | ⟨hbar, -⟩
  · exact he
  · exact absurd hbar (not_or.2 ⟨hg, hb⟩)

theorem Laid.shaped {unit : Gap} {before : List Char} {g h : Glyph} (same : g.char = h.char)
    (hp : Placed before g) (hl : Laid unit before g h) : Shaped unit before h where
  placed := by
    refine ⟨fun p hhead he h0 => ?_, fun hne hc h0 => ?_, fun hc hhead => ?_⟩
    · have hne : before ≠ [] := by rintro rfl; cases hhead
      exact hl.breaks hne (hp.after_end p hhead he h0)
    · exact hl.breaks hne (hp.closing hne (same.trans hc) h0)
    · have hne : before ≠ [] := by rintro rfl; cases hhead
      have hnone := hp.glued (same.trans hc) hhead
      have hline := hl.inLine hne (by rw [hnone]; exact Gap.not_breaks_none)
      rw [hline.gap_eq (by rw [same, hc]; decide) (by rw [hhead]; decide), hnone]
  first := hl.first
  level := by
    intro hb
    have hne : before ≠ [] := fun hnil => by
      rw [hl.first hnil] at hb
      exact Gap.not_breaks_none hb
    rw [← same]
    by_cases hg : g.gap.Breaks
    · exact hl.onNewLine hne hg
    · rcases hl.inLine hne hg with he | ⟨-, he | ⟨hbar, he⟩⟩
      · exact absurd (he ▸ hb) hg
      · rw [he] at hb
        exact absurd hb Gap.not_breaks_space
      · have hlevel : levelAt before g.char = openBraces before := by
          rw [levelAt, hbar, if_neg (by decide)]
        rw [he, hlevel]

theorem shaped_of_laid {unit : Gap} {gs out : List Glyph}
    (h : Paired (Laid unit) [] (regap freshGap [] gs) out) : Everywhere (Shaped unit) [] out := by
  rw [← broken_tightened] at h
  exact h.everywhere (placed_broken (tight_tightened _)) fun _ _ _ => Laid.shaped

theorem Everywhere.placed {unit : Gap} {gs : List Glyph} (h : Everywhere (Shaped unit) [] gs) :
    Everywhere Placed [] gs :=
  h.imp_of_mem fun _ _ _ hs => hs.placed

/-- A place of a text is a place of its block. -/
theorem exists_laid_place {unit : Gap} {gs out : List Glyph}
    (h : Paired (Laid unit) [] (regap freshGap [] gs) out) {xs ys : List Glyph} {g : Glyph}
    (hgs : gs = xs ++ g :: ys) :
    ∃ xs' k ys', out = xs' ++ k :: ys' ∧ ink xs = ink xs' ∧ g.char = k.char ∧ ink ys = ink ys' ∧
      Laid unit (past [] xs) (g.withGap (freshGap (past [] xs) g ys)) k := by
  obtain ⟨zs, he, hink⟩ := regap_append freshGap [] xs g ys
  rw [hgs, he] at h
  obtain ⟨xs', k, ys', hout, hx, hchar, hy, hlaid⟩ := h.at_split
  refine ⟨xs', k, ys', hout, hink.symm.trans hx, hchar, ?_, ?_⟩
  · rw [← hy, ink_regap]
  · rwa [past_congr hink] at hlaid

/-- Away from delimiters the gaps within a line stay. -/
theorem Laid.gap_eq {unit : Gap} {before : List Char} {g h : Glyph} (hl : Laid unit before g h)
    (hb : isBeside before g.char = false) (hg : ¬ g.gap.Breaks) : h.gap = g.gap := by
  obtain ⟨p, before', rfl, hp, hchar⟩ := ne_of_isBeside hb
  have hbar : p ≠ '|' := ne_of_isTight hp rfl
  have hline := hl.inLine (List.cons_ne_nil _ _) hg
  exact hline.gap_eq (ne_of_isTight hchar rfl) (by simpa using hbar)

theorem Laid.gap_ne_none {unit : Gap} {before : List Char} {g h : Glyph}
    (hl : Laid unit before g h) (hb : isBeside before g.char = false) (hg : g.gap ≠ Gap.none) :
    h.gap ≠ Gap.none := by
  by_cases hbreaks : g.gap.Breaks
  · exact (hl.breaks (ne_nil_of_isBeside hb) hbreaks).ne_none
  · rwa [hl.gap_eq hb hbreaks]

/-! ## The style -/

/-- The unit of indentation of a style, which consists of spaces and tabs. -/
def Style.unit (style : Style) (h : ∀ c ∈ style.indent, c = ' ' ∨ c = '\t') : Gap where
  chars := style.indent
  blank := by
    intro c hc
    rcases h c hc with rfl | rfl <;> decide

theorem exists_layout_spelling (style : Style) (h : ∀ c ∈ style.indent, c = ' ' ∨ c = '\t')
    {cs : List Char} (hcs : isPlain cs = false) :
    ∃ out, layout style cs = spell out ∧
      Paired (Laid (style.unit h)) [] (regap freshGap [] (glyphs cs)) out := by
  rw [layout, hcs, if_neg Bool.false_ne_true]
  exact exists_block_spelling (style.unit h) style.lineLimit cs

end TypeMismatch.Layout
