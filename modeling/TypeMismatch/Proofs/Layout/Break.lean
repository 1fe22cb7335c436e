import TypeMismatch.Proofs.Layout.Nesting
import TypeMismatch.Proofs.Layout.Spacing

/-!
# What breaking into lines does to the glyphs

The walk over a tightened text writes blanks and line breaks around delimiters and arrows.  What it
writes between two characters is put together here as the gap of the second one (`brokenGap`): the
blanks `behind` what was read last, the gap of the glyph itself, and the blanks `ahead` of it.
`breakLines_spell` says that the walk does this.
-/

namespace TypeMismatch.Layout

/-- Does a line end after the character, outside of brackets? -/
def endsLine (c : Char) : Bool := c == '\x7b' || c == ';' || c == ',' || c == '|'

/-- The blanks written behind what was read last, when `next` follows. -/
def behind (before : List Char) (next : Option Char) : Gap :=
  match before with
  | [] => Gap.none
  | c :: rest =>
    if c == '>' && rest.head? == some '=' then
      if 0 < openBrackets before && next == some '\x7d' then Gap.none else Gap.space
    else if endsLine c then
      if openBrackets before == 0 then Gap.newline
      else if next == some '\x7d' then Gap.none
      else Gap.space
    else Gap.none

/-- The last character written before a glyph. -/
def lastWritten (before : List Char) (next : Option Char) : Option Char :=
  lastOf before.head? (behind before next).chars

/-- The blanks written ahead of a character that is followed by `next`. -/
def ahead (before : List Char) (c : Char) (next : Option Char) : Gap :=
  if c == '\x7b' then
    if (gapBefore c (lastWritten before (some c))).isEmpty then Gap.none else Gap.space
  else if c == '|' then Gap.space
  else if c == '\x7d' then if openBrackets before == 0 then Gap.newline else Gap.space
  else if c == '=' && next == some '>' then Gap.space
  else Gap.none

/-- The gap of a glyph after breaking. -/
def brokenGap (before : List Char) (g : Glyph) (rest : List Glyph) : Gap :=
  behind before (some g.char) ++ g.gap ++ ahead before g.char (nextChar rest)

/-- The glyphs of a tightened text after breaking. -/
def broken (gs : List Glyph) : List Glyph := regap brokenGap [] gs

/-- Delimiters have no gap. -/
def Tight (gs : List Glyph) : Prop := ∀ g ∈ gs, isTight g.char = true → g.gap = Gap.none

/-! ## The walk, step by step -/

theorem breakLines_arrow (depth : Nat) (last : Option Char) (rest : List Char) :
    breakLines depth last ('=' :: '>' :: rest) =
      closeUp depth [' ', '=', '>', ' '] rest ++
        breakLines depth (lastOf last (closeUp depth [' ', '=', '>', ' '] rest)) rest := rfl

theorem breakLines_cons {c : Char} {rest : List Char}
    (h : ¬ (c = '=' ∧ rest.head? = some '>')) (depth : Nat) (last : Option Char) :
    breakLines depth last (c :: rest) =
      gapBefore c last ++ pieceOf (depthAfter depth c) c rest ++
        breakLines (depthAfter depth c)
          (lastOf last (gapBefore c last ++ pieceOf (depthAfter depth c) c rest)) rest := by
  conv => lhs; unfold breakLines
  split
  · contradiction
  · next heq => cases heq; exact absurd ⟨rfl, rfl⟩ h
  · next heq => cases heq; rfl

theorem gapBefore_of_ne {c : Char} (h : c ≠ '\x7b') (last : Option Char) :
    gapBefore c last = [] := by
  cases last <;> simp [gapBefore, h]

theorem gapBefore_brace (last : Option Char) :
    gapBefore '\x7b' last = [] ∨ gapBefore '\x7b' last = [' '] := by
  cases last with
  | none => exact .inl rfl
  | some d =>
    rw [gapBefore]
    split
    · exact .inr rfl
    · exact .inl rfl

@[simp] theorem lastOf_nil (last : Option Char) : lastOf last [] = last := rfl

theorem lastOf_append_cons (last : Option Char) (a : List Char) (c : Char) (b : List Char) :
    lastOf last (a ++ c :: b) = lastOf (some c) b := by
  cases b with
  | nil => simp [lastOf]
  | cons d b => simp [lastOf, List.getLast?_cons]

theorem closeUp_of_ne {rest : List Char} (h : rest.head? ≠ some '\x7d') (depth : Nat)
    (piece : List Char) : closeUp depth piece rest = piece := by
  rw [closeUp, if_neg]
  simp [h]

theorem closeUp_ink {c : Char} (hc : Text.isBlank c = false) (depth : Nat)
    (piece rest : List Char) : closeUp depth (piece ++ [c]) rest = piece ++ [c] := by
  have hne : c ≠ ' ' := by rintro rfl; cases hc
  rw [closeUp, if_neg]
  simp [hne]

/-- What has no meaning for the layout is written as it is. -/
theorem pieceOf_ordinary {c : Char} (he : endsLine c = false) (hb : c ≠ '\x7d') (depth : Nat)
    (rest : List Char) (h : Text.isBlank c = false ∨ rest.head? ≠ some '\x7d') :
    pieceOf depth c rest = [c] := by
  simp only [endsLine, Bool.or_eq_false_iff, beq_eq_false_iff_ne, ne_eq] at he
  obtain ⟨⟨⟨h1, h2⟩, h3⟩, h4⟩ := he
  have hin : inBrackets c = [c] := by simp [inBrackets, h1, h2, h3, h4]
  have hout : outsideBrackets c = [c] := by simp [outsideBrackets, h1, h2, h3, h4, hb]
  have hclose : closeUp depth [c] rest = [c] := by
    rcases h with h | h
    · exact closeUp_ink h depth [] rest
    · exact closeUp_of_ne h depth [c]
  simp [pieceOf, hin, hout, hb, hclose]

theorem isOpener_of_isBlank {c : Char} (hc : Text.isBlank c = true) : isOpener c = false := by
  refine Text.eq_false_of_isBlank (fun d hd => ?_) hc
  simp only [isOpener, Bool.or_eq_true, beq_iff_eq, or_assoc] at hd
  rcases hd with rfl | rfl | rfl <;> rfl

theorem isCloser_of_isBlank {c : Char} (hc : Text.isBlank c = true) : isCloser c = false := by
  refine Text.eq_false_of_isBlank (fun d hd => ?_) hc
  simp only [isCloser, Bool.or_eq_true, beq_iff_eq, or_assoc] at hd
  rcases hd with rfl | rfl | rfl <;> rfl

theorem depthAfter_of_isBlank {c : Char} (hc : Text.isBlank c = true) (depth : Nat) :
    depthAfter depth c = depth := by
  rw [depthAfter, isOpener_of_isBlank hc, isCloser_of_isBlank hc]
  rfl

theorem endsLine_iff {c : Char} :
    endsLine c = true ↔ c = '\x7b' ∨ c = ';' ∨ c = ',' ∨ c = '|' := by
  simp [endsLine, or_assoc]

theorem isTight_of_endsLine {c : Char} (h : endsLine c = true) : isTight c = true := by
  rcases endsLine_iff.1 h with rfl | rfl | rfl | rfl <;> rfl

theorem endsLine_of_isBlank {c : Char} (hc : Text.isBlank c = true) : endsLine c = false :=
  Text.eq_false_of_isBlank (fun _ hd => isBlank_of_isTight (isTight_of_endsLine hd)) hc

/-- Blanks are written as they are, unless a closing brace follows them. -/
theorem breakLines_gap (w : Gap) {rest : List Char} (h : rest.head? ≠ some '\x7d') (depth : Nat)
    (last : Option Char) :
    breakLines depth last (w.chars ++ rest) =
      w.chars ++ breakLines depth (lastOf last w.chars) rest := by
  obtain ⟨ws, hw⟩ := w
  induction ws generalizing last with
  | nil => rfl
  | cons c ws ih =>
    have hc : Text.isBlank c = true := hw c List.mem_cons_self
    have hnext : (ws ++ rest).head? ≠ some '\x7d' := by
      cases ws with
      | nil => exact h
      | cons d ws =>
        have hd : d ≠ '\x7d' := Text.ne_of_isBlank (hw d (by simp)) (by decide)
        simpa using hd
    have hpiece : gapBefore c last ++ pieceOf depth c (ws ++ rest) = [c] := by
      rw [gapBefore_of_ne (Text.ne_of_isBlank hc rfl),
        pieceOf_ordinary (endsLine_of_isBlank hc) (Text.ne_of_isBlank hc rfl) _ _ (.inr hnext)]
      rfl
    have hrest := ih (some c) fun d hd => hw d (List.mem_cons_of_mem c hd)
    have hlast : lastOf (some c) ws = lastOf last (c :: ws) :=
      (lastOf_append_cons last [] c ws).symm
    rw [List.cons_append, breakLines_cons fun he => Text.ne_of_isBlank hc rfl he.1,
      depthAfter_of_isBlank hc, hpiece]
    simp only [hlast] at hrest
    exact congrArg (c :: ·) hrest

/-! ## The walk, glyph by glyph -/

/-- In a tightened text, a delimiter follows exactly if it is the next character. -/
theorem head?_spell_tight {gs : List Glyph} (h : Tight gs) {c : Char} (hc : isTight c = true) :
    (spell gs).head? = some c ↔ nextChar gs = some c := by
  rw [head?_spell_eq_some (isBlank_of_isTight hc)]
  constructor
  · rintro ⟨g, rest, rfl, -, rfl⟩
    rfl
  · cases gs with
    | nil => intro hn; cases hn
    | cons g rest =>
      intro hn
      have hg : g.char = c := Option.some.inj hn
      exact ⟨g, rest, rfl, h g List.mem_cons_self (by rw [hg]; exact hc), hg⟩

/-- The blank that a piece loses in front of a closing brace. -/
theorem closeUp_space {gs : List Glyph} (h : Tight gs) (depth : Nat) (piece : List Char) {c : Char}
    (hc : Text.isBlank c = false) :
    closeUp depth (piece ++ [c, ' ']) (spell gs) =
      piece ++ c :: (if 0 < depth ∧ nextChar gs = some '\x7d' then [] else [' ']) := by
  have hhead := head?_spell_tight h (show isTight '\x7d' = true from rfl)
  have htrim : Text.trimRight (piece ++ [c, ' ']) = piece ++ [c] := by
    have hsplit : piece ++ [c, ' '] = (piece ++ [c]) ++ [' '] := by simp
    rw [hsplit, Text.trimRight_append_blank (by simp; rfl), Text.trimRight_concat hc]
  simp only [closeUp, Bool.and_eq_true, decide_eq_true_eq, beq_iff_eq, hhead]
  simp only [htrim]
  by_cases hd : 0 < depth ∧ nextChar gs = some '\x7d'
  · simp [hd]
  · simp [hd]

theorem chars_braceGap (before : List Char) (next : Option Char) :
    (ahead before '\x7b' next).chars = gapBefore '\x7b' (lastWritten before (some '\x7b')) := by
  rcases gapBefore_brace (lastWritten before (some '\x7b')) with h | h <;> simp [ahead, h]

theorem chars_behind_arrow (before : List Char) (next : Option Char) :
    (behind ('>' :: '=' :: before) next).chars =
      if 0 < openBrackets before ∧ next = some '\x7d' then [] else [' '] := by
  simp only [behind, openBrackets_arrow]
  simp only [beq_self_eq_true, List.head?_cons, Bool.and_self, ↓reduceIte, Bool.and_eq_true,
    decide_eq_true_eq, beq_iff_eq]
  split <;> rfl

theorem chars_behind_delimiter {c : Char} (hc : endsLine c = true) (before : List Char)
    (next : Option Char) :
    (behind (c :: before) next).chars =
      if openBrackets (c :: before) = 0 then ['\n']
      else if 0 < openBrackets (c :: before) ∧ next = some '\x7d' then [] else [' '] := by
  have hne : (c == '>') = false := by
    cases h : c == '>'
    · rfl
    · rw [beq_iff_eq.1 h] at hc
      cases hc
  rw [behind, hne, Bool.false_and, if_neg Bool.false_ne_true, if_pos hc]
  by_cases hd : openBrackets (c :: before) = 0
  · simp [hd]
  · by_cases hn : next = some '\x7d' <;> simp [hd, hn, Nat.pos_of_ne_zero hd]

theorem behind_ordinary {c : Char} (hc : endsLine c = false) {before : List Char}
    (h : ¬ (c = '>' ∧ before.head? = some '=')) (next : Option Char) :
    behind (c :: before) next = Gap.none := by
  rw [behind, if_neg, hc, if_neg Bool.false_ne_true]
  simpa using h

/-- The blank that a bar gets in front of it. -/
def barGap (c : Char) : List Char := if c = '|' then [' '] else []

theorem outsideBrackets_delimiter {c : Char} (hc : endsLine c = true) :
    outsideBrackets c = barGap c ++ [c, '\n'] := by
  rcases endsLine_iff.1 hc with rfl | rfl | rfl | rfl <;> rfl

theorem inBrackets_delimiter {c : Char} (hc : endsLine c = true) :
    inBrackets c = barGap c ++ [c, ' '] := by
  rcases endsLine_iff.1 hc with rfl | rfl | rfl | rfl <;> rfl

theorem isCloser_of_endsLine {c : Char} (hc : endsLine c = true) : isCloser c = false := by
  rcases endsLine_iff.1 hc with rfl | rfl | rfl | rfl <;> rfl

theorem pieceOf_delimiter {c : Char} (hc : endsLine c = true) {rest : List Glyph}
    (hrest : Tight rest) (before : List Char) :
    pieceOf (openBrackets (c :: before)) c (spell rest) =
      barGap c ++ c :: (behind (c :: before) (nextChar rest)).chars := by
  have hbrace : c ≠ '\x7d' := by rintro rfl; cases hc
  have hink : Text.isBlank c = false := isBlank_of_isTight (isTight_of_endsLine hc)
  rw [chars_behind_delimiter hc]
  by_cases h0 : openBrackets (c :: before) = 0
  · simp [pieceOf, h0, isCloser_of_endsLine hc, outsideBrackets_delimiter hc]
  · have hup := closeUp_space hrest (openBrackets (c :: before)) (barGap c) hink
    simp [pieceOf, h0, hbrace, inBrackets_delimiter hc, hup]

theorem pieceOf_closing {before : List Char} (rest : List Char) :
    pieceOf (openBrackets before) '\x7d' rest = (ahead before '\x7d' none).chars ++ ['\x7d'] := by
  by_cases h0 : openBrackets before = 0
  · simp [pieceOf, h0, isCloser, outsideBrackets, ahead]
  · have hink : Text.isBlank '\x7d' = false := rfl
    have hup := closeUp_ink hink (openBrackets before) [' '] rest
    simp only [List.cons_append, List.nil_append] at hup
    simp [pieceOf, h0, ahead, hup]

theorem gapBefore_barGap {c : Char} (hc : endsLine c = true) {before : List Char}
    {last : Option Char} (hlast : c = '\x7b' → last = lastWritten before (some c))
    (next : Option Char) : gapBefore c last ++ barGap c = (ahead before c next).chars := by
  by_cases hb : c = '\x7b'
  · subst hb
    rw [chars_braceGap, ← hlast rfl, barGap, if_neg (by decide), List.append_nil]
  · rw [gapBefore_of_ne hb]
    rcases endsLine_iff.1 hc with rfl | rfl | rfl | rfl
    · exact absurd rfl hb
    · rfl
    · rfl
    · rfl

/-- What a character becomes: the blanks ahead of it, and those behind it. -/
theorem pieceOf_spell {c : Char} {before : List Char} {rest : List Glyph} (hrest : Tight rest)
    (hin : Text.isBlank c = false) (hopen : ¬ (c = '=' ∧ nextChar rest = some '>'))
    (hclose : ¬ (c = '>' ∧ before.head? = some '=')) {last : Option Char}
    (hlast : c = '\x7b' → last = lastWritten before (some c)) :
    gapBefore c last ++ pieceOf (openBrackets (c :: before)) c (spell rest) =
      (ahead before c (nextChar rest)).chars ++
        c :: (behind (c :: before) (nextChar rest)).chars := by
  by_cases he : endsLine c = true
  · rw [pieceOf_delimiter he hrest, ← List.append_assoc, gapBefore_barGap he hlast]
  · rw [Bool.not_eq_true] at he
    rw [behind_ordinary he hclose]
    by_cases hb : c = '\x7d'
    · subst hb
      rw [gapBefore_of_ne (by decide), openBrackets_of_plain rfl rfl, pieceOf_closing]
      rfl
    · have hne : c ≠ '\x7b' ∧ c ≠ '|' := by
        constructor <;> (rintro rfl; cases he)
      rw [gapBefore_of_ne hne.1, pieceOf_ordinary he hb _ _ (.inl hin)]
      simp [ahead, hne, hb, hopen]

theorem lastOf_piece (last : Option Char) (lead : List Char) (c : Char) (before : List Char)
    (next : Option Char) :
    lastOf last (lead ++ c :: (behind (c :: before) next).chars) =
      lastWritten (c :: before) next :=
  lastOf_append_cons last lead c _

/-- The blanks of a gap are written first. -/
theorem breakLines_glyph {g : Glyph} (hg : isTight g.char = true → g.gap = Gap.none)
    (rest : List Char) (depth : Nat) (last : Option Char) :
    breakLines depth last (g.gap.chars ++ g.char :: rest) =
      g.gap.chars ++ breakLines depth (lastOf last g.gap.chars) (g.char :: rest) := by
  by_cases hb : g.char = '\x7d'
  · rw [hg (by rw [hb]; decide)]
    rfl
  · exact breakLines_gap g.gap (by simpa using hb) depth last

/-- An arrow becomes an arrow between blanks. -/
theorem breakLines_arrow_spell {rest : List Glyph} (hrest : Tight rest) (before : List Char)
    (last : Option Char) :
    breakLines (openBrackets before) last ('=' :: '>' :: spell rest) =
      ' ' :: '=' :: '>' :: ((behind ('>' :: '=' :: before) (nextChar rest)).chars ++
        breakLines (openBrackets ('>' :: '=' :: before))
          (lastWritten ('>' :: '=' :: before) (nextChar rest)) (spell rest)) := by
  have hink : Text.isBlank '>' = false := rfl
  have hup := closeUp_space hrest (openBrackets before) [' ', '='] hink
  rw [← chars_behind_arrow] at hup
  simp only [List.cons_append, List.nil_append] at hup
  have hlast := lastOf_piece last [' ', '='] '>' ('=' :: before) (nextChar rest)
  simp only [List.cons_append, List.nil_append] at hlast
  rw [breakLines_arrow, hup, hlast, openBrackets_arrow]
  rfl

theorem spell_broken_arrow {g k : Glyph} (hg : g.char = '=') (hk : k.char = '>')
    (hgap : k.gap = Gap.none) (before : List Char) (rest : List Glyph) :
    spell (regap brokenGap before (g :: k :: rest)) =
      (behind before (some '=')).chars ++ (g.gap.chars ++
        ' ' :: '=' :: '>' :: spell (regap brokenGap ('>' :: '=' :: before) rest)) := by
  have hfirst : brokenGap before g (k :: rest) =
      behind before (some '=') ++ g.gap ++ Gap.space := by
    simp [brokenGap, ahead, hg, hk]
  have hsecond : brokenGap ('=' :: before) k rest = Gap.none := by
    simp [brokenGap, ahead, behind, endsLine, hk, hgap]
  simp [regap, spell, hfirst, hsecond, hg, hk]

/-- **The walk spells the broken glyphs**, but for the blanks behind the last one.  `before` is what
was read, and what it left to be written comes first. -/
theorem breakLines_spell (before : List Char) (gs : List Glyph) (h : Tight gs)
    (hclose : ¬ (nextChar gs = some '>' ∧ before.head? = some '=')) :
    ∃ tail : Gap,
      (behind before (nextChar gs)).chars ++
          breakLines (openBrackets before) (lastWritten before (nextChar gs)) (spell gs) =
        spell (regap brokenGap before gs) ++ tail.chars := by
  -- an arrow is read in one step, so two glyphs may go at once
  match gs with
  | [] => exact ⟨behind before none, by simp [breakLines, regap]⟩
  | g :: rest =>
    have hg : isTight g.char = true → g.gap = Gap.none := h g List.mem_cons_self
    have hrest : Tight rest := fun k hk => h k (List.mem_cons_of_mem g hk)
    rw [spell, breakLines_glyph hg, nextChar_cons]
    by_cases harrow : g.char = '=' ∧ nextChar rest = some '>'
    · obtain ⟨hchar, hnext⟩ := harrow
      cases rest with
      | nil => cases hnext
      | cons k rest =>
        have hk : k.char = '>' := Option.some.inj hnext
        have hkgap : k.gap = Gap.none := hrest k List.mem_cons_self (by rw [hk]; decide)
        have hrest' : Tight rest := fun j hj => hrest j (List.mem_cons_of_mem k hj)
        obtain ⟨tail, ht⟩ := breakLines_spell ('>' :: '=' :: before) rest hrest' (by simp)
        refine ⟨tail, ?_⟩
        rw [spell_broken_arrow hchar hk hkgap, spell, hkgap, hchar, hk]
        simp only [Gap.chars_none, List.nil_append, breakLines_arrow_spell hrest', ht]
        simp
    · have hstep : ¬ (g.char = '=' ∧ (spell rest).head? = some '>') := by
        rwa [head?_spell_tight hrest (by decide)]
      have hhere : ¬ (g.char = '>' ∧ before.head? = some '=') := by
        rintro ⟨hc, hb⟩
        exact hclose ⟨by rw [nextChar_cons, hc], hb⟩
      have hlast : g.char = '\x7b' → lastOf (lastWritten before (some g.char)) g.gap.chars =
          lastWritten before (some g.char) := by
        intro hb
        rw [hg (by rw [hb]; decide)]
        rfl
      obtain ⟨tail, ht⟩ := breakLines_spell (g.char :: before) rest hrest
        (fun hn => harrow ⟨Option.some.inj hn.2, hn.1⟩)
      refine ⟨tail, ?_⟩
      rw [breakLines_cons hstep, ← openBrackets_cons hhere,
        pieceOf_spell hrest g.inked harrow hhere hlast, lastOf_piece, regap, spell]
      simp only [Glyph.char_withGap, Glyph.gap_withGap, brokenGap, Gap.chars_append,
        List.append_assoc, List.cons_append, ht]
  termination_by gs.length

/-- A tightened text, broken into lines. -/
theorem breakLines_tightened (cs : List Char) (h : Tight (tightened (glyphs cs))) :
    ∃ tail : Gap,
      breakLines 0 none (tighten cs) = spell (broken (tightened (glyphs cs))) ++ tail.chars := by
  obtain ⟨tail, ht⟩ := breakLines_spell [] (tightened (glyphs cs)) h (by simp)
  rw [← tighten_eq_spell] at ht
  exact ⟨tail, ht⟩

end TypeMismatch.Layout
