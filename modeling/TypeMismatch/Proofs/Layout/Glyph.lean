import TypeMismatch.Layout
import TypeMismatch.Proofs.Text.Blank

/-!
# Texts as glyphs

Laying out changes blanks and nothing else.  A text is therefore read as a list of *glyphs*: each is
a character that is not blank, with the blanks in front of it.  Every text is spelled by exactly one
list of glyphs, but for the blanks at its end (`exists_spelling`, `glyphs_spell`).

A pass of the layout gives each glyph a new gap and looks, for that, at the characters before it and
at the glyphs after it (`regap`).  `Everywhere` and `Paired` say what holds of each glyph of a list,
or of the glyphs of two lists with the same characters, in their places.  Characters before a place
are given with the last one first.
-/

namespace TypeMismatch.Layout

/-- A run of blanks, possibly empty. -/
@[ext] structure Gap where
  chars : List Char
  blank : ∀ c ∈ chars, Text.isBlank c = true

namespace Gap

/-- No blanks. -/
def none : Gap := ⟨[], by simp⟩

/-- One blank. -/
def space : Gap := ⟨[' '], by simp; rfl⟩

/-- A line break. -/
def newline : Gap := ⟨['\n'], by simp; rfl⟩

instance : Append Gap := ⟨fun v w => ⟨v.chars ++ w.chars, fun c hc => by
  rcases List.mem_append.1 hc with h | h
  · exact v.blank c h
  · exact w.blank c h⟩⟩

@[simp] theorem chars_none : none.chars = [] := rfl

@[simp] theorem chars_space : space.chars = [' '] := rfl

@[simp] theorem chars_newline : newline.chars = ['\n'] := rfl

@[simp] theorem chars_append (v w : Gap) : (v ++ w).chars = v.chars ++ w.chars := rfl

@[simp] theorem none_append (w : Gap) : none ++ w = w := rfl

@[simp] theorem append_none (w : Gap) : w ++ none = w := Gap.ext (List.append_nil _)

theorem eq_none_iff {w : Gap} : w = none ↔ w.chars = [] :=
  ⟨fun h => by rw [h]; rfl, fun h => Gap.ext h⟩

/-- Does a line end in the run? -/
def Breaks (w : Gap) : Prop := '\n' ∈ w.chars

instance : DecidablePred Breaks := fun w => inferInstanceAs (Decidable ('\n' ∈ w.chars))

@[simp] theorem not_breaks_none : ¬ none.Breaks := by simp [Breaks]

@[simp] theorem not_breaks_space : ¬ space.Breaks := by simp [Breaks]

@[simp] theorem breaks_newline : newline.Breaks := by simp [Breaks]

@[simp] theorem breaks_append {v w : Gap} : (v ++ w).Breaks ↔ v.Breaks ∨ w.Breaks := by
  simp [Breaks]

theorem Breaks.ne_none {w : Gap} (h : w.Breaks) : w ≠ none := by
  rintro rfl
  exact not_breaks_none h

end Gap

/-- A character that is not blank, with the blanks in front of it. -/
@[ext] structure Glyph where
  gap : Gap
  char : Char
  inked : Text.isBlank char = false

/-- The same character after other blanks. -/
def Glyph.withGap (g : Glyph) (w : Gap) : Glyph := ⟨w, g.char, g.inked⟩

@[simp] theorem Glyph.gap_withGap (g : Glyph) (w : Gap) : (g.withGap w).gap = w := rfl

@[simp] theorem Glyph.char_withGap (g : Glyph) (w : Gap) : (g.withGap w).char = g.char := rfl

@[simp] theorem Glyph.withGap_gap (g : Glyph) : g.withGap g.gap = g := rfl

@[simp] theorem Glyph.withGap_withGap (g : Glyph) (v w : Gap) :
    (g.withGap v).withGap w = g.withGap w := rfl

/-- The text of a list of glyphs. -/
def spell : List Glyph → List Char
  | [] => []
  | g :: rest => g.gap.chars ++ g.char :: spell rest

/-- The characters of a list of glyphs, without the blanks. -/
def ink (gs : List Glyph) : List Char := gs.map Glyph.char

/-- The characters before a place that comes after `gs`, the last one first. -/
def past (before : List Char) (gs : List Glyph) : List Char := (ink gs).reverse ++ before

/-- The list with nothing in front of its first glyph. -/
def flush : List Glyph → List Glyph
  | [] => []
  | g :: rest => g.withGap Gap.none :: rest

/-- The character of the next glyph. -/
def nextChar (gs : List Glyph) : Option Char := gs.head?.map Glyph.char

@[simp] theorem spell_nil : spell [] = [] := rfl

@[simp] theorem spell_append (gs hs : List Glyph) : spell (gs ++ hs) = spell gs ++ spell hs := by
  induction gs with
  | nil => rfl
  | cons g gs ih => simp [spell, ih]

@[simp] theorem ink_nil : ink [] = [] := rfl

@[simp] theorem ink_cons (g : Glyph) (gs : List Glyph) : ink (g :: gs) = g.char :: ink gs := rfl

@[simp] theorem ink_append (gs hs : List Glyph) : ink (gs ++ hs) = ink gs ++ ink hs :=
  List.map_append

@[simp] theorem past_nil (before : List Char) : past before [] = before := rfl

@[simp] theorem past_cons (before : List Char) (g : Glyph) (gs : List Glyph) :
    past before (g :: gs) = past (g.char :: before) gs := by
  simp [past]

@[simp] theorem past_append (before : List Char) (gs hs : List Glyph) :
    past before (gs ++ hs) = past (past before gs) hs := by
  simp [past]

theorem past_congr {gs hs : List Glyph} (h : ink gs = ink hs) (before : List Char) :
    past before gs = past before hs := by
  rw [past, past, h]

@[simp] theorem nextChar_nil : nextChar [] = none := rfl

@[simp] theorem nextChar_cons (g : Glyph) (gs : List Glyph) :
    nextChar (g :: gs) = some g.char := rfl

theorem nextChar_eq_head? (gs : List Glyph) : nextChar gs = (ink gs).head? := by
  cases gs <;> rfl

@[simp] theorem flush_flush (gs : List Glyph) : flush (flush gs) = flush gs := by cases gs <;> rfl

/-- What is spelled consists of the ink and of blanks. -/
theorem withoutBlanks_spell (gs : List Glyph) : Text.withoutBlanks (spell gs) = ink gs := by
  induction gs with
  | nil => rfl
  | cons g gs ih =>
    have hc : Text.withoutBlanks (g.char :: spell gs) = g.char :: ink gs := by
      simp [Text.withoutBlanks, g.inked, ← ih]
    rw [spell, Text.withoutBlanks_append, Text.withoutBlanks_of_blank g.gap.blank, hc,
      List.nil_append, ink_cons]

/-! ## Reading a text -/

/-- The glyphs of a text that stands after the blanks `w`. -/
def glyphsFrom (w : Gap) : List Char → List Glyph
  | [] => []
  | c :: rest =>
    if h : Text.isBlank c = true then glyphsFrom (w ++ ⟨[c], by simpa using h⟩) rest
    else ⟨w, c, by simpa using h⟩ :: glyphsFrom Gap.none rest

/-- The glyphs of a text. -/
def glyphs (cs : List Char) : List Glyph := glyphsFrom Gap.none cs

theorem exists_spelling_from (w : Gap) (cs : List Char) :
    ∃ tail : Gap, w.chars ++ cs = spell (glyphsFrom w cs) ++ tail.chars := by
  induction cs generalizing w with
  | nil => exact ⟨w, by simp [glyphsFrom]⟩
  | cons c cs ih =>
    rw [glyphsFrom]
    split
    · next h =>
      obtain ⟨tail, ht⟩ := ih (w ++ ⟨[c], by simpa using h⟩)
      exact ⟨tail, by rw [← ht]; simp⟩
    · obtain ⟨tail, ht⟩ := ih Gap.none
      refine ⟨tail, ?_⟩
      rw [Gap.chars_none, List.nil_append] at ht
      rw [spell, List.append_assoc, List.cons_append, ← ht]

/-- Every text is spelled by its glyphs, but for the blanks at its end. -/
theorem exists_spelling (cs : List Char) :
    ∃ tail : Gap, cs = spell (glyphs cs) ++ tail.chars :=
  exists_spelling_from Gap.none cs

theorem glyphsFrom_blank (v w : Gap) (cs : List Char) :
    glyphsFrom v (w.chars ++ cs) = glyphsFrom (v ++ w) cs := by
  obtain ⟨ws, hw⟩ := w
  induction ws generalizing v with
  | nil => rw [show (⟨[], hw⟩ : Gap) = Gap.none from rfl, Gap.append_none]; rfl
  | cons c ws ih =>
    have hc : Text.isBlank c = true := hw c List.mem_cons_self
    have hws : ∀ d ∈ ws, Text.isBlank d = true := fun d hd => hw d (List.mem_cons_of_mem c hd)
    have hstep := ih (v ++ ⟨[c], by simpa using hc⟩) hws
    simp only [List.cons_append, glyphsFrom, hc, ↓reduceDIte] at hstep ⊢
    rw [hstep]
    congr 1
    exact Gap.ext (by simp)

theorem glyphsFrom_spell (w : Gap) (g : Glyph) (gs : List Glyph) (tail : Gap) :
    glyphsFrom w (spell (g :: gs) ++ tail.chars) =
      g.withGap (w ++ g.gap) :: glyphs (spell gs ++ tail.chars) := by
  rw [spell, List.append_assoc, glyphsFrom_blank, List.cons_append, glyphsFrom, dif_neg]
  · rfl
  · simp [g.inked]

/-- A list of glyphs is read back from what it spells. -/
@[simp] theorem glyphs_spell_append (gs : List Glyph) (tail : Gap) :
    glyphs (spell gs ++ tail.chars) = gs := by
  induction gs with
  | nil =>
    have h := glyphsFrom_blank Gap.none tail []
    rw [List.append_nil] at h
    rw [spell_nil, List.nil_append, glyphs, h, glyphsFrom]
  | cons g gs ih => rw [glyphs, glyphsFrom_spell, ih, Gap.none_append, Glyph.withGap_gap]

@[simp] theorem glyphs_spell (gs : List Glyph) : glyphs (spell gs) = gs := by
  have h := glyphs_spell_append gs Gap.none
  rwa [Gap.chars_none, List.append_nil] at h

theorem spell_inj {gs hs : List Glyph} (h : spell gs = spell hs) : gs = hs := by
  rw [← glyphs_spell gs, h, glyphs_spell]

theorem withoutBlanks_eq_ink (cs : List Char) : Text.withoutBlanks cs = ink (glyphs cs) := by
  obtain ⟨tail, ht⟩ := exists_spelling cs
  conv => lhs; rw [ht]
  rw [Text.withoutBlanks_append, withoutBlanks_spell, Text.withoutBlanks_of_blank tail.blank,
    List.append_nil]

theorem glyphs_gap (w : Gap) : glyphs w.chars = [] := glyphs_spell_append [] w

theorem glyphs_glyph_append (g : Glyph) (cs : List Char) :
    glyphs (g.gap.chars ++ g.char :: cs) = g :: glyphs cs := by
  obtain ⟨tail, ht⟩ := exists_spelling cs
  have h := glyphs_spell_append (g :: glyphs cs) tail
  rw [spell, List.append_assoc, List.cons_append, ← ht] at h
  exact h

/-- A character of a text that is not blank is a glyph of it. -/
theorem exists_glyphs_append (u v : List Char) {c : Char} (hc : Text.isBlank c = false) :
    ∃ w : Gap, u = spell (glyphs u) ++ w.chars ∧
      glyphs (u ++ c :: v) = glyphs u ++ ⟨w, c, hc⟩ :: glyphs v := by
  obtain ⟨w, hu⟩ := exists_spelling u
  obtain ⟨tail, hv⟩ := exists_spelling v
  refine ⟨w, hu, ?_⟩
  have h := glyphs_spell_append (glyphs u ++ ⟨w, c, hc⟩ :: glyphs v) tail
  have htext : spell (glyphs u ++ ⟨w, c, hc⟩ :: glyphs v) ++ tail.chars = u ++ c :: v := by
    rw [spell_append, spell, List.append_assoc, List.append_assoc, List.cons_append, ← hv,
      ← List.append_assoc, ← hu]
  rwa [htext] at h

/-- A character of what is spelled that is not blank. -/
theorem exists_split_of_spell {gs : List Glyph} {u v : List Char} {c : Char}
    (hc : Text.isBlank c = false) (h : spell gs = u ++ c :: v) :
    ∃ xs g ys, gs = xs ++ g :: ys ∧ g.char = c ∧ u = spell xs ++ g.gap.chars ∧ v = spell ys := by
  obtain ⟨w, hu, hsplit⟩ := exists_glyphs_append u v hc
  rw [← h, glyphs_spell] at hsplit
  refine ⟨glyphs u, ⟨w, c, hc⟩, glyphs v, hsplit, rfl, hu, ?_⟩
  have htext : (u ++ [c]) ++ spell (glyphs v) = (u ++ [c]) ++ v := by
    rw [List.append_assoc, List.append_assoc, List.singleton_append, List.singleton_append, ← h,
      hsplit, spell_append, spell]
    conv => lhs; rw [hu]
    rw [List.append_assoc]
  exact (List.append_cancel_left htext).symm

/-- What is spelled has no blanks at its end. -/
theorem eq_of_spell_eq_append {gs hs : List Glyph} {w : Gap} (h : spell gs = spell hs ++ w.chars) :
    gs = hs ∧ w = Gap.none := by
  have hgs : gs = hs := by rw [← glyphs_spell gs, h, glyphs_spell_append]
  rw [hgs, List.self_eq_append_right] at h
  exact ⟨hgs, Gap.eq_none_iff.2 h⟩

/-! ## Trimming -/

theorem trimRight_spell (gs : List Glyph) : Text.trimRight (spell gs) = spell gs := by
  rcases List.eq_nil_or_concat gs with rfl | ⟨init, g, rfl⟩
  · rfl
  · have h : spell (init.concat g) = (spell init ++ g.gap.chars) ++ [g.char] := by simp [spell]
    rw [h, Text.trimRight_concat g.inked]

/-- Trimming takes the blanks at the end and the gap of the first glyph. -/
theorem trim_spell_append (gs : List Glyph) (tail : Gap) :
    Text.trim (spell gs ++ tail.chars) = spell (flush gs) := by
  cases gs with
  | nil => exact Text.trim_of_blank tail.blank
  | cons g gs =>
    rw [spell, List.append_assoc, Text.trim_blank_append g.gap.blank, Text.trim, List.cons_append,
      Text.trimLeft_cons g.inked, ← List.cons_append, Text.trimRight_append_blank tail.blank]
    exact trimRight_spell (flush (g :: gs))

theorem trim_spell (gs : List Glyph) : Text.trim (spell gs) = spell (flush gs) := by
  have h := trim_spell_append gs Gap.none
  rwa [Gap.chars_none, List.append_nil] at h

theorem trim_eq_spell (cs : List Char) : Text.trim cs = spell (flush (glyphs cs)) := by
  obtain ⟨tail, ht⟩ := exists_spelling cs
  conv => lhs; rw [ht]
  exact trim_spell_append _ tail

/-! ## New gaps -/

/-- Gives each glyph the gap that `f` says, from the characters before it and the glyphs after
it. -/
def regap (f : List Char → Glyph → List Glyph → Gap) : List Char → List Glyph → List Glyph
  | _, [] => []
  | before, g :: rest => g.withGap (f before g rest) :: regap f (g.char :: before) rest

@[simp] theorem ink_regap (f : List Char → Glyph → List Glyph → Gap) (before : List Char)
    (gs : List Glyph) : ink (regap f before gs) = ink gs := by
  induction gs generalizing before with
  | nil => rfl
  | cons g gs ih => simp [regap, ih]

@[simp] theorem nextChar_regap (f : List Char → Glyph → List Glyph → Gap) (before : List Char)
    (gs : List Glyph) : nextChar (regap f before gs) = nextChar gs := by
  cases gs <;> rfl

theorem regap_append (f : List Char → Glyph → List Glyph → Gap) (before : List Char)
    (xs : List Glyph) (g : Glyph) (ys : List Glyph) :
    ∃ xs', regap f before (xs ++ g :: ys) =
        xs' ++ g.withGap (f (past before xs) g ys) :: regap f (g.char :: past before xs) ys ∧
      ink xs' = ink xs := by
  induction xs generalizing before with
  | nil => exact ⟨[], rfl, rfl⟩
  | cons x xs ih =>
    obtain ⟨xs', he, hink⟩ := ih (x.char :: before)
    refine ⟨x.withGap (f before x (xs ++ g :: ys)) :: xs', ?_, ?_⟩
    · rw [List.cons_append, regap, he, past_cons]
      rfl
    · rw [ink_cons, hink]
      rfl

/-- A property of each glyph of a list, in its place. -/
def Everywhere (P : List Char → Glyph → Prop) : List Char → List Glyph → Prop
  | _, [] => True
  | before, g :: rest => P before g ∧ Everywhere P (g.char :: before) rest

namespace Everywhere

variable {P Q : List Char → Glyph → Prop} {before : List Char} {gs : List Glyph}

/-- What holds everywhere holds in a given place. -/
theorem at_split {xs ys : List Glyph} {g : Glyph} (h : Everywhere P before (xs ++ g :: ys)) :
    P (past before xs) g := by
  induction xs generalizing before with
  | nil => exact h.1
  | cons x xs ih => rw [past_cons]; exact ih h.2

theorem at_next {xs ys : List Glyph} {g k : Glyph} (h : Everywhere P before (xs ++ g :: k :: ys)) :
    P (g.char :: past before xs) k := by
  have hsplit : xs ++ g :: k :: ys = (xs ++ [g]) ++ k :: ys := by simp
  have hpast : past before (xs ++ [g]) = g.char :: past before xs := by simp
  rw [hsplit] at h
  rw [← hpast]
  exact h.at_split

theorem append_left {xs ys : List Glyph} (h : Everywhere P before (xs ++ ys)) :
    Everywhere P before xs := by
  induction xs generalizing before with
  | nil => trivial
  | cons x xs ih => exact ⟨h.1, ih h.2⟩

theorem append_right {xs ys : List Glyph} (h : Everywhere P before (xs ++ ys)) :
    Everywhere P (past before xs) ys := by
  induction xs generalizing before with
  | nil => exact h
  | cons x xs ih => rw [past_cons]; exact ih h.2

theorem imp_of_mem (hPQ : ∀ before g, g ∈ gs → P before g → Q before g)
    (h : Everywhere P before gs) : Everywhere Q before gs := by
  induction gs generalizing before with
  | nil => trivial
  | cons g gs ih =>
    exact ⟨hPQ _ _ List.mem_cons_self h.1,
      ih (fun b x hx => hPQ b x (List.mem_cons_of_mem g hx)) h.2⟩

theorem of_regap {f : List Char → Glyph → List Glyph → Gap}
    (h : ∀ before g rest, g ∈ gs → P before (g.withGap (f before g rest))) :
    Everywhere P before (regap f before gs) := by
  induction gs generalizing before with
  | nil => trivial
  | cons g gs ih =>
    exact ⟨h _ _ _ List.mem_cons_self, ih fun b x r hx => h b x r (List.mem_cons_of_mem g hx)⟩

end Everywhere

/-- Two lists with the same characters, and a relation of the glyphs in each place. -/
inductive Paired (R : List Char → Glyph → Glyph → Prop) :
    List Char → List Glyph → List Glyph → Prop
  | nil {before : List Char} : Paired R before [] []
  | cons {before : List Char} {g h : Glyph} {gs hs : List Glyph} (same : g.char = h.char)
      (here : R before g h) (there : Paired R (g.char :: before) gs hs) :
      Paired R before (g :: gs) (h :: hs)

namespace Paired

variable {R S : List Char → Glyph → Glyph → Prop} {before : List Char} {gs hs : List Glyph}

theorem ink_eq (h : Paired R before gs hs) : ink gs = ink hs := by
  induction h with
  | nil => rfl
  | cons same here there ih => rw [ink_cons, ink_cons, same, ih]

/-- A pairing that starts behind some character, where a property holds everywhere. -/
theorem mono_of_everywhere {P : List Char → Glyph → Prop} (hne : before ≠ [])
    (hP : Everywhere P before gs)
    (hRS : ∀ before g h, before ≠ [] → P before g → R before g h → S before g h)
    (h : Paired R before gs hs) : Paired S before gs hs := by
  induction h with
  | nil => exact .nil
  | cons same here there ih =>
    exact .cons same (hRS _ _ _ hne hP.1 here) (ih (List.cons_ne_nil _ _) hP.2)

theorem mono_behind (hne : before ≠ [])
    (hRS : ∀ before g h, before ≠ [] → R before g h → S before g h)
    (h : Paired R before gs hs) : Paired S before gs hs := by
  induction h with
  | nil => exact .nil
  | cons same here there ih => exact .cons same (hRS _ _ _ hne here) (ih (List.cons_ne_nil _ _))

/-- What holds everywhere in the one list and of each pair, in the other list. -/
theorem everywhere {P Q : List Char → Glyph → Prop} (hP : Everywhere P before gs)
    (hPQ : ∀ before g h, g.char = h.char → P before g → R before g h → Q before h)
    (h : Paired R before gs hs) : Everywhere Q before hs := by
  induction h with
  | nil => trivial
  | cons same here there ih =>
    refine ⟨hPQ _ _ _ same hP.1 here, ?_⟩
    rw [← same]
    exact ih hP.2

/-- Lists that are paired part by part. -/
theorem append {gs' hs' : List Glyph} (h : Paired R before gs hs)
    (h' : Paired R (past before gs) gs' hs') : Paired R before (gs ++ gs') (hs ++ hs') := by
  induction h with
  | nil => exact h'
  | cons same here there ih => exact .cons same here (ih (by rwa [← past_cons]))

/-- A place of the one list is a place of the other. -/
theorem at_split {xs ys : List Glyph} {g : Glyph} (h : Paired R before (xs ++ g :: ys) hs) :
    ∃ xs' g' ys', hs = xs' ++ g' :: ys' ∧ ink xs = ink xs' ∧ g.char = g'.char ∧
      ink ys = ink ys' ∧ R (past before xs) g g' := by
  induction xs generalizing before hs with
  | nil =>
    cases h with
    | cons same here there => exact ⟨[], _, _, rfl, rfl, same, there.ink_eq, here⟩
  | cons x xs ih =>
    cases h with
    | @cons _ _ x' _ hs' same here there =>
      obtain ⟨xs', g', ys', rfl, hx, hg, hy, hR⟩ := ih there
      refine ⟨x' :: xs', g', ys', rfl, ?_, hg, hy, ?_⟩
      · rw [ink_cons, ink_cons, same, hx]
      · rw [past_cons]; exact hR

end Paired

end TypeMismatch.Layout
