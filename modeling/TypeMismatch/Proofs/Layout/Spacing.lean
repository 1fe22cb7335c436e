import TypeMismatch.Proofs.Layout.Glyph

/-!
# What tightening does to the glyphs

Two passes drop the blanks around arrows and then those around delimiters.  Together they are one
rule (`tighten_eq_spell`): a glyph loses its gap at the start of the text, beside a delimiter, and
where it begins an arrow.  An arrow is seen only where its two characters stand together, so the
gap in front of `= >` stays although the second pass joins the two.
-/

namespace TypeMismatch.Layout

/-- A text begins with a given character exactly if it is that of the first glyph, without a gap. -/
theorem head?_spell_eq_some {c : Char} (hc : Text.isBlank c = false) (gs : List Glyph) :
    (spell gs).head? = some c ↔ ∃ g rest, gs = g :: rest ∧ g.gap = Gap.none ∧ g.char = c := by
  cases gs with
  | nil => simp
  | cons g gs =>
    rcases hw : g.gap.chars with _ | ⟨b, bs⟩
    · have hnone : g.gap = Gap.none := Gap.eq_none_iff.2 hw
      simp [spell, hnone]
    · have hb : Text.isBlank b = true := g.gap.blank b (by rw [hw]; exact List.mem_cons_self)
      have hne : b ≠ c := Text.ne_of_isBlank hb hc
      have hgap : g.gap ≠ Gap.none := fun h => by rw [Gap.eq_none_iff, hw] at h; cases h
      constructor
      · intro h
        simp only [spell, hw, List.cons_append, List.head?_cons, Option.some.injEq] at h
        exact absurd h hne
      · rintro ⟨_, _, he, hnone, -⟩
        cases he
        exact absurd hnone hgap

theorem isBlank_of_isTight {c : Char} (h : isTight c = true) : Text.isBlank c = false := by
  simp only [isTight, Bool.or_eq_true, beq_iff_eq, or_assoc] at h
  rcases h with rfl | rfl | rfl | rfl | rfl | rfl | rfl <;> decide

theorem isTight_of_isBlank {c : Char} (h : Text.isBlank c = true) : isTight c = false :=
  Text.eq_false_of_isBlank (fun _ => isBlank_of_isTight) h

/-! ## Arrows -/

/-- Do two glyphs form an arrow? -/
def isArrow (g h : Glyph) : Bool := g.char == '=' && h.char == '>' && h.gap.chars.isEmpty

theorem isArrow_iff {g h : Glyph} :
    isArrow g h = true ↔ g.char = '=' ∧ h.char = '>' ∧ h.gap = Gap.none := by
  rw [Gap.eq_none_iff]
  simp [isArrow, and_assoc]

/-- The gaps of arrows, and of what follows them, are closed; `after` says whether an arrow stands
right before. -/
def closeArrows (after : Bool) : List Glyph → List Glyph
  | [] => []
  | [g] => [if after then g.withGap Gap.none else g]
  | g :: h :: rest =>
    if isArrow g h then g.withGap Gap.none :: h :: closeArrows true rest
    else (if after then g.withGap Gap.none else g) :: closeArrows false (h :: rest)

theorem tightenArrows_arrow (pending : Option (List Char)) (rest : List Char) :
    tightenArrows pending ('=' :: '>' :: rest) = '=' :: '>' :: tightenArrows none rest := rfl

theorem tightenArrows_cons {c : Char} {rest : List Char}
    (h : ¬ (c = '=' ∧ rest.head? = some '>')) (pending : Option (List Char)) :
    tightenArrows pending (c :: rest) =
      if Text.isBlank c then tightenArrows (pending.map (c :: ·)) rest
      else (pending.getD []).reverse ++ c :: tightenArrows (some []) rest := by
  conv => lhs; unfold tightenArrows
  split
  · contradiction
  · next heq => cases heq; exact absurd ⟨rfl, rfl⟩ h
  · next heq => cases heq; rfl

theorem tightenArrows_gap (w : Gap) (pending : Option (List Char)) (rest : List Char) :
    tightenArrows pending (w.chars ++ rest) =
      tightenArrows (pending.map (w.chars.reverse ++ ·)) rest := by
  obtain ⟨ws, hw⟩ := w
  induction ws generalizing pending with
  | nil => cases pending <;> rfl
  | cons c ws ih =>
    have hc : Text.isBlank c = true := hw c List.mem_cons_self
    have hne : ¬ (c = '=' ∧ (ws ++ rest).head? = some '>') := by
      rintro ⟨rfl, -⟩
      exact absurd hc (by decide)
    rw [List.cons_append, tightenArrows_cons hne, if_pos hc,
      ih _ fun d hd => hw d (List.mem_cons_of_mem c hd)]
    cases pending <;> simp

/-- The blanks that are held back at the start of a text: none are, or they are dropped. -/
def holding (after : Bool) : Option (List Char) := if after then none else some []

theorem holding_gap (after : Bool) (g : Glyph) :
    (((holding after).map (g.gap.chars.reverse ++ ·)).getD []).reverse =
      (if after then g.withGap Gap.none else g).gap.chars := by
  cases after <;> simp [holding]

theorem tightenArrows_glyph {g : Glyph} {rest : List Char}
    (h : ¬ (g.char = '=' ∧ rest.head? = some '>')) (after : Bool) :
    tightenArrows (holding after) (g.gap.chars ++ g.char :: rest) =
      (if after then g.withGap Gap.none else g).gap.chars ++
        g.char :: tightenArrows (holding false) rest := by
  rw [tightenArrows_gap, tightenArrows_cons h, g.inked, holding_gap]
  rfl

theorem tightenArrows_spell (after : Bool) (gs : List Glyph) :
    tightenArrows (holding after) (spell gs) = spell (closeArrows after gs) := by
  fun_induction closeArrows after gs with
  | case1 after => cases after <;> rfl
  | case2 after g =>
    rw [spell, spell_nil, tightenArrows_glyph (by simp), spell]
    cases after <;> rfl
  | case3 after g h rest harrow ih =>
    obtain ⟨hg, hh, hgap⟩ := isArrow_iff.1 harrow
    simp only [spell, hg, hh, hgap, Gap.chars_none, List.nil_append, Glyph.char_withGap,
      Glyph.gap_withGap, tightenArrows_gap, tightenArrows_arrow]
    rw [← ih]
    rfl
  | case4 after g h rest harrow ih =>
    have hne : ¬ (g.char = '=' ∧ (spell (h :: rest)).head? = some '>') := by
      rintro ⟨hg, hhead⟩
      obtain ⟨h', rest', he, hgap, hchar⟩ := (head?_spell_eq_some (by decide) _).1 hhead
      cases he
      exact harrow (isArrow_iff.2 ⟨hg, hchar, hgap⟩)
    rw [spell, tightenArrows_glyph hne, ih, spell]
    cases after <;> rfl

/-! ## Delimiters -/

/-- The gaps of delimiters, and of what follows them, are closed. -/
def closeDelimiters (after : Bool) : List Glyph → List Glyph
  | [] => []
  | g :: rest =>
    (if after || isTight g.char then g.withGap Gap.none else g) ::
      closeDelimiters (isTight g.char) rest

theorem tightenDelimiters_gap (w : Gap) (pending : Option (List Char)) (rest : List Char) :
    tightenDelimiters pending (w.chars ++ rest) =
      tightenDelimiters (pending.map (w.chars.reverse ++ ·)) rest := by
  obtain ⟨ws, hw⟩ := w
  induction ws generalizing pending with
  | nil => cases pending <;> rfl
  | cons c ws ih =>
    have hc : Text.isBlank c = true := hw c List.mem_cons_self
    rw [List.cons_append, tightenDelimiters, isTight_of_isBlank hc, if_neg Bool.false_ne_true,
      if_pos hc, ih _ fun d hd => hw d (List.mem_cons_of_mem c hd)]
    cases pending <;> simp

theorem tightenDelimiters_spell (after : Bool) (gs : List Glyph) :
    tightenDelimiters (holding after) (spell gs) = spell (closeDelimiters after gs) := by
  induction gs generalizing after with
  | nil => cases after <;> rfl
  | cons g gs ih =>
    rw [spell, tightenDelimiters_gap, tightenDelimiters, closeDelimiters, spell, ← ih]
    by_cases ht : isTight g.char = true
    · simp [ht, holding]
    · rw [Bool.not_eq_true] at ht
      rw [ht, Bool.or_false, g.inked, holding_gap]
      cases after <;> rfl

/-! ## One rule -/

/-- Is the gap of a glyph dropped?  It is at the start, beside a delimiter, and in front of an
arrow. -/
def isTightPlace (before : List Char) (g : Glyph) (rest : List Glyph) : Bool :=
  before.head?.all isTight || isTight g.char || rest.head?.any (isArrow g)

/-- The gap that a glyph keeps. -/
def tightGap (before : List Char) (g : Glyph) (rest : List Glyph) : Gap :=
  if isTightPlace before g rest then Gap.none else g.gap

/-- The glyphs without spacing. -/
def tightened (gs : List Glyph) : List Glyph := regap tightGap [] gs

theorem withGap_tightGap (before : List Char) (g : Glyph) (rest : List Glyph) :
    g.withGap (tightGap before g rest) =
      if isTightPlace before g rest then g.withGap Gap.none else g := by
  rw [tightGap]
  split <;> rfl

/-- The two passes are the one rule.  What follows an arrow follows a delimiter, so the first pass
need not be asked about it. -/
theorem closeDelimiters_closeArrows (before : List Char) {after : Bool}
    (h : after = true → before.head?.all isTight = true) (gs : List Glyph) :
    closeDelimiters (before.head?.all isTight) (closeArrows after gs) =
      regap tightGap before gs := by
  fun_induction closeArrows after gs generalizing before with
  | case1 after => rfl
  | case2 after g =>
    rw [regap, withGap_tightGap, isTightPlace]
    cases after with
    | false => simp [closeDelimiters, regap]
    | true => simp [closeDelimiters, regap, h rfl]
  | case3 after g k rest harrow ih =>
    -- what follows the arrow loses its gap twice: to the arrow, and to `>` as a delimiter
    obtain ⟨hg, hk, hgap⟩ := isArrow_iff.1 harrow
    have htail := ih ('>' :: '=' :: before) (fun _ => rfl)
    have hnone : k.withGap Gap.none = k := by rw [← hgap]; rfl
    simp only [List.head?_cons, Option.all_some] at htail
    simp only [closeDelimiters, regap, withGap_tightGap, isTightPlace, Glyph.char_withGap, hg, hk,
      List.head?_cons, Option.any_some, harrow, Bool.or_true, ↓reduceIte, Glyph.withGap_withGap,
      ite_self]
    rw [← htail]
    simp [isTight, hnone]
  | case4 after g k rest harrow ih =>
    have htail := ih (g.char :: before) (by simp)
    simp only [List.head?_cons, Option.all_some] at htail
    rw [regap, ← htail, withGap_tightGap, isTightPlace]
    cases after with
    | false => simp [closeDelimiters, harrow]
    | true => simp [closeDelimiters, h rfl]

theorem closeArrows_flush (gs : List Glyph) :
    closeArrows false (flush gs) = flush (closeArrows false gs) := by
  rcases gs with _ | ⟨g, _ | ⟨k, rest⟩⟩
  · rfl
  · rfl
  · simp only [flush, closeArrows]
    have h : isArrow (g.withGap Gap.none) k = isArrow g k := rfl
    rw [h]
    split <;> rfl

theorem closeDelimiters_flush (gs : List Glyph) :
    closeDelimiters false (flush gs) = closeDelimiters true gs := by
  cases gs <;> simp [flush, closeDelimiters]

/-- **Tightening keeps the ink and drops the gaps that the rule names.** -/
theorem tighten_eq_spell (cs : List Char) : tighten cs = spell (tightened (glyphs cs)) := by
  have harrows := tightenArrows_spell false (flush (glyphs cs))
  have hdelimiters := tightenDelimiters_spell false (closeArrows false (flush (glyphs cs)))
  rw [holding, if_neg Bool.false_ne_true] at harrows hdelimiters
  have hrule : closeDelimiters true (closeArrows false (glyphs cs)) = tightened (glyphs cs) :=
    closeDelimiters_closeArrows [] (fun h => by cases h) (glyphs cs)
  rw [tighten, trim_eq_spell, harrows, hdelimiters, closeArrows_flush, closeDelimiters_flush, hrule]

end TypeMismatch.Layout
