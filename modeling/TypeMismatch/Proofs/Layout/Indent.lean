import TypeMismatch.Proofs.Layout.Wrap

/-!
# What indenting does to the glyphs

The lines of a broken text are indented by a walk that counts brackets and braces of its own, line
by line, and keeps only whether a line opens and whether it closes a brace.  On broken lines this is
enough: outside of brackets an opening brace is the last character of its line and a closing brace
the first (`Placed`).  So the counts of the walk are those of the whole text (`effectFrom_line`),
and every line begins with the indentation of its nesting (`exists_indent_spelling`).
-/

namespace TypeMismatch.Layout

/-- Where a glyph of a broken text stands: on a new line after what ends a line and if it is a
closing brace, outside of brackets, and together with the other half of an arrow. -/
structure Placed (before : List Char) (g : Glyph) : Prop where
  after_end : ∀ p, before.head? = some p → endsLine p = true → openBrackets before = 0 →
    g.gap.Breaks
  closing : before ≠ [] → g.char = '\x7d' → openBrackets before = 0 → g.gap.Breaks
  glued : g.char = '>' → before.head? = some '=' → g.gap = Gap.none

theorem placed_brokenGap {before : List Char} {g : Glyph} (rest : List Glyph)
    (hg : isTight g.char = true → g.gap = Gap.none) :
    Placed before (g.withGap (brokenGap before g rest)) where
  after_end := by
    intro p hp he h0
    cases before with
    | nil => cases hp
    | cons c before =>
      obtain rfl : c = p := Option.some.inj hp
      have hchars := chars_behind_delimiter he before (some g.char)
      rw [if_pos h0] at hchars
      have hb : (behind (c :: before) (some g.char)).Breaks := by rw [Gap.Breaks, hchars]; simp
      simp [brokenGap, hb]
  closing := by
    intro _ hc h0
    simp only [Glyph.char_withGap] at hc
    simp [brokenGap, ahead, hc, h0]
  glued := by
    intro hc hp
    simp only [Glyph.char_withGap] at hc
    cases before with
    | nil => cases hp
    | cons c before =>
      obtain rfl : c = '=' := Option.some.inj hp
      have hbehind : behind ('=' :: before) (some '>') = Gap.none :=
        behind_ordinary (by decide) (by simp) _
      have hgap : g.gap = Gap.none := hg (by rw [hc]; decide)
      simp [brokenGap, hbehind, hgap, ahead, hc]

theorem placed_broken {gs : List Glyph} (h : Tight gs) :
    Everywhere Placed [] (broken gs) :=
  Everywhere.of_regap fun _ g rest hg => placed_brokenGap rest (h g hg)

/-! ## The effect of a line -/

theorem Effect.next_of_isBlank {c : Char} (hc : Text.isBlank c = true) (e : Effect)
    (last : Option Char) : e.next last c = e := by
  have hopen : c ≠ '\x7b' := Text.ne_of_isBlank hc rfl
  have hclose : c ≠ '\x7d' := Text.ne_of_isBlank hc rfl
  simp [Effect.next, isOpener_of_isBlank hc, isCloser_of_isBlank hc, hopen, hclose]

theorem effectFrom_gap (w : Gap) (e : Effect) (last : Option Char) (cs : List Char) :
    effectFrom e last (w.chars ++ cs) = effectFrom e (lastOf last w.chars) cs := by
  obtain ⟨ws, hw⟩ := w
  induction ws generalizing last with
  | nil => rfl
  | cons c ws ih =>
    have hrest := ih (some c) fun d hd => hw d (List.mem_cons_of_mem c hd)
    have hlast : lastOf (some c) ws = lastOf last (c :: ws) :=
      (lastOf_append_cons last [] c ws).symm
    rw [List.cons_append, effectFrom, Effect.next_of_isBlank (hw c List.mem_cons_self)]
    simp only [hlast] at hrest
    exact hrest

/-- One character changes the counts of the walk as it changes those of the text. -/
theorem Effect.next_ink {c : Char} {before : List Char} {last : Option Char}
    (h : c = '>' → (last = some '=' ↔ before.head? = some '=')) (opens closes : Bool) :
    Effect.next ⟨openBrackets before, opens, closes⟩ last c =
      ⟨openBrackets (c :: before), opens || (openBrackets before == 0 && c == '\x7b'),
        closes || (openBrackets before == 0 && c == '\x7d')⟩ := by
  by_cases harrow : c = '>' ∧ before.head? = some '='
  · obtain ⟨rfl, hb⟩ := harrow
    have hl := (h rfl).2 hb
    simp [Effect.next, openBrackets, isOpener, isCloser, hl, hb]
  · have hno : (c == '>' && last == some '=') = false := by
      by_cases hc : c = '>'
      · have hl : last ≠ some '=' := fun hl => harrow ⟨hc, (h hc).1 hl⟩
        simp [hl]
      · simp [hc]
    have hbraces : isOpener c = true ∨ isCloser c = true → c ≠ '\x7b' ∧ c ≠ '\x7d' := by
      rintro (ho | ho) <;> constructor <;> (rintro rfl; cases ho)
    rw [openBrackets_cons harrow, Effect.next, hno, depthAfter]
    by_cases ho : isOpener c = true
    · simp [ho, hbraces (.inl ho)]
    · by_cases hc : isCloser c = true
      · simp [ho, hc, hbraces (.inr hc)]
      · by_cases h0 : openBrackets before = 0
        · by_cases hb : c = '\x7d'
          · simp [isOpener, isCloser, h0, hb]
          · by_cases hb' : c = '\x7b'
            · simp [isOpener, isCloser, h0, hb']
            · simp [ho, hc, h0, hb, hb']
        · simp [ho, hc, h0]

/-- A glyph within a line. -/
def Inside (before : List Char) (g : Glyph) : Prop := Placed before g ∧ ¬ g.gap.Breaks

theorem lastOf_gap {w : Gap} (h : w ≠ Gap.none) (last : Option Char) :
    ∃ b, lastOf last w.chars = some b ∧ Text.isBlank b = true := by
  rcases List.eq_nil_or_concat w.chars with hw | ⟨init, b, hw⟩
  · exact absurd (Gap.eq_none_iff.2 hw) h
  · refine ⟨b, ?_, w.blank b ?_⟩
    · rw [hw, List.concat_eq_append, lastOf_append_cons]
      rfl
    · rw [hw]
      simp

/-- Whether an arrow is read is the same for the line and for the whole text. -/
theorem Placed.arrow_iff {before : List Char} {g : Glyph} (h : Placed before g)
    (hc : g.char = '>') :
    lastOf before.head? g.gap.chars = some '=' ↔ before.head? = some '=' := by
  by_cases hw : g.gap = Gap.none
  · rw [hw]
    rfl
  · constructor
    · intro hl
      obtain ⟨b, hb, hblank⟩ := lastOf_gap hw before.head?
      rw [hl, Option.some.injEq] at hb
      rw [← hb] at hblank
      exact absurd hblank (by decide)
    · intro hl
      exact absurd (h.glued hc hl) hw

theorem Inside.not_closing {before : List Char} {g : Glyph} (h : Inside before g)
    (hne : before ≠ []) : ¬ (openBrackets before = 0 ∧ g.char = '\x7d') :=
  fun ⟨h0, hc⟩ => h.2 (h.1.closing hne hc h0)

/-- Nothing stands behind an opening brace in its line. -/
theorem eq_nil_of_opening {before : List Char} {c : Char} {rest : List Glyph}
    (h : Everywhere Inside (c :: before) rest) (hopen : openBrackets before = 0 ∧ c = '\x7b') :
    rest = [] := by
  obtain ⟨h0, rfl⟩ := hopen
  cases rest with
  | nil => rfl
  | cons k rest =>
    have hbrackets : openBrackets ('\x7b' :: before) = 0 := by
      rw [openBrackets_of_plain rfl rfl, h0]
    exact absurd (h.1.1.after_end '\x7b' rfl rfl hbrackets) h.1.2

/-- The effect of the rest of a line: it closes nothing, and it opens what the text opens. -/
theorem effectFrom_body {before : List Char} (hne : before ≠ []) {body : List Glyph}
    (h : Everywhere Inside before body) (opens closes : Bool) (ho : opens = true → body = []) :
    ∃ opens', effectFrom ⟨openBrackets before, opens, closes⟩ before.head? (spell body) =
        ⟨openBrackets (past before body), opens', closes⟩ ∧
      openBraces (past before body) + opens.toNat = openBraces before + opens'.toNat := by
  induction body generalizing before opens with
  | nil => exact ⟨opens, rfl, rfl⟩
  | cons g body ih =>
    obtain ⟨hhere, hthere⟩ := h
    -- an opening brace is the last glyph of its line, so none was read yet
    have hopens : opens = false := by
      cases opens with
      | false => rfl
      | true => cases ho rfl
    have hclosing := hhere.not_closing hne
    obtain ⟨opens', he, hb⟩ := ih (List.cons_ne_nil g.char before) hthere
      (openBrackets before == 0 && g.char == '\x7b')
      (fun hopen => eq_nil_of_opening hthere (by simpa using hopen))
    have hclose : (openBrackets before == 0 && g.char == '\x7d') = false := by simpa using hclosing
    refine ⟨opens', ?_, ?_⟩
    · rw [spell, effectFrom_gap, effectFrom, Effect.next_ink (hhere.1.arrow_iff), past_cons, ← he,
        hopens, hclose, Bool.false_or, Bool.or_false]
      rfl
    · rw [past_cons]
      by_cases hopen : openBrackets before = 0 ∧ g.char = '\x7b'
      · simp [openBraces, hopen, hopens] at hb ⊢
        omega
      · have hflag : (openBrackets before == 0 && g.char == '\x7b') = false := by simpa using hopen
        have hsame := openBraces_cons (fun h0 hc => hopen ⟨h0, hc⟩) (fun h0 hc => hclosing ⟨h0, hc⟩)
        rw [hflag, hsame] at hb
        rw [hopens]
        exact hb

/-- The level of a line that begins with `c`: the braces open before it, less one if it closes
one. -/
def levelAt (before : List Char) (c : Char) : Nat :=
  if c = '\x7d' then openBraces (c :: before) else openBraces before

/-- **The effect of a line is that of its characters on the text.** -/
theorem effectFrom_line {before : List Char} {g : Glyph} {body : List Glyph}
    (hg : g.char = '>' → before.head? ≠ some '=')
    (h : Everywhere Inside (g.char :: before) body) :
    ∃ opens closes,
      effectFrom ⟨openBrackets before, false, false⟩ none (lineText (g :: body)) =
        ⟨openBrackets (past before (g :: body)), opens, closes⟩ ∧
      (if closes then openBraces before - 1 else openBraces before) = levelAt before g.char ∧
      openBraces (past before (g :: body)) = levelAt before g.char + opens.toNat := by
  have hiff : g.char = '>' → ((none : Option Char) = some '=' ↔ before.head? = some '=') := by
    intro hc
    simp [hg hc]
  have hfirst := Effect.next_ink hiff false false
  obtain ⟨opens, he, hb⟩ := effectFrom_body (List.cons_ne_nil g.char before) h
    (openBrackets before == 0 && g.char == '\x7b') (openBrackets before == 0 && g.char == '\x7d')
    (fun hopen => eq_nil_of_opening h (by simpa using hopen))
  refine ⟨opens, openBrackets before == 0 && g.char == '\x7d', ?_, ?_, ?_⟩
  · rw [lineText, flush, spell, Glyph.gap_withGap, Gap.chars_none, List.nil_append,
      Glyph.char_withGap, effectFrom, hfirst, past_cons, ← he]
    rfl
  · rw [levelAt]
    by_cases hc : g.char = '\x7d' <;> by_cases h0 : openBrackets before = 0 <;>
      simp [openBraces, hc, h0]
  · rw [past_cons, levelAt]
    by_cases hc : g.char = '\x7d'
    · have hflag : (openBrackets before == 0 && g.char == '\x7b') = false := by simp [hc]
      rw [hflag] at hb
      rw [if_pos hc]
      exact hb
    · rw [if_neg hc]
      by_cases hopen : openBrackets before = 0 ∧ g.char = '\x7b'
      · simp [openBraces, hopen] at hb ⊢
        omega
      · have hflag : (openBrackets before == 0 && g.char == '\x7b') = false := by simpa using hopen
        rw [hflag, openBraces_cons (fun h0 ho => hopen ⟨h0, ho⟩) (fun _ => hc)] at hb
        exact hb

/-- Within a line the braces open are those at its first glyph, that glyph included if it closes. -/
theorem openBraces_inside {before : List Char} (hne : before ≠ []) {body : List Glyph}
    (h : Everywhere Inside before body) {level : Nat}
    (hlevel : body ≠ [] → openBraces before = level) :
    Everywhere (fun before g => Inside before g ∧ openBraces before = level) before body := by
  induction body generalizing before with
  | nil => trivial
  | cons g body ih =>
    obtain ⟨hhere, hthere⟩ := h
    refine ⟨⟨hhere, hlevel (List.cons_ne_nil g body)⟩, ih (List.cons_ne_nil _ _) hthere ?_⟩
    intro hbody
    rw [openBraces_cons, hlevel (List.cons_ne_nil g body)]
    · exact fun h0 ho => hbody (eq_nil_of_opening hthere ⟨h0, ho⟩)
    · exact fun h0 hc => hhere.not_closing hne ⟨h0, hc⟩

theorem openBraces_first {before : List Char} {c : Char} {body : List Glyph}
    (h : Everywhere Inside (c :: before) body) (hbody : body ≠ []) :
    openBraces (c :: before) = levelAt before c := by
  rw [levelAt]
  split
  · rfl
  · next hc =>
    exact openBraces_cons (fun h0 ho => hbody (eq_nil_of_opening h ⟨h0, ho⟩)) (fun _ => hc)

/-! ## Indenting -/

/-- The indentation of a level. -/
def indentGap (unit : Gap) (level : Nat) : Gap where
  chars := (List.replicate level unit.chars).flatten
  blank := by
    intro c hc
    obtain ⟨cs, hcs, hmem⟩ := List.mem_flatten.1 hc
    rw [List.eq_of_mem_replicate hcs] at hmem
    exact unit.blank c hmem

/-- How the gap of a glyph changes: on a new line it becomes a line break and the indentation of its
level, and within a line it is wrapped. -/
def Indented (unit : Gap) (before : List Char) (g h : Glyph) : Prop :=
  if before = [] ∨ g.gap.Breaks then h.gap = edge (indentGap unit (levelAt before g.char))
  else Rewrapped (edge (indentGap unit (openBraces before))) before g h

theorem indentLines_textLines (style : Style) (level depth : Nat) (ls : List (List Char)) :
    indentLines style level depth (ls.filter fun line => !line.isEmpty) =
      indentLines style level depth ls := by
  induction ls generalizing level depth with
  | nil => rfl
  | cons line ls ih =>
    cases line with
    | nil => simp [indentLines, ih]
    | cons c line => simp [indentLines, ih]

/-- The glyphs of a line, indented and wrapped. -/
theorem exists_line_spelling (unit : Gap) (limit : Nat) {before : List Char} {g : Glyph}
    {body : List Glyph} (h : Everywhere Inside (g.char :: before) body)
    (hg : before = [] ∨ g.gap.Breaks) :
    ∃ out, (wrap limit ((indentGap unit (levelAt before g.char)).chars ++
        lineText (g :: body))).flatMap ('\n' :: ·) = spell out ∧
      Paired (Indented unit) before (g :: body) out := by
  obtain ⟨rest, hspell, hpaired⟩ :=
    exists_wrap_spelling (indentGap unit (levelAt before g.char)) limit before g body
  refine ⟨_, hspell, .cons rfl (by rw [Indented, if_pos hg]; rfl) ?_⟩
  have hlevel := openBraces_inside (List.cons_ne_nil g.char before) h (openBraces_first h)
  refine hpaired.mono_of_everywhere (List.cons_ne_nil g.char before) hlevel ?_
  rintro seen k k' hne ⟨hinside, hsame⟩ hR
  rw [Indented, if_neg, hsame]
  · exact hR
  · rintro (hnil | hb)
    · exact hne hnil
    · exact hinside.2 hb

/-- **Indenting spells the glyphs of the lines again**, each line at the level of its nesting. -/
theorem exists_indent_spelling (unit : Gap) (limit : Nat) {ls : List (List Glyph)}
    (hl : Lined ls) {before : List Char}
    (hp : Everywhere Placed before ls.flatten)
    (hstart : ∀ line ∈ ls.head?, ∃ g more, line = g :: more ∧ (before = [] ∨ g.gap.Breaks)) :
    ∃ out, (indentLines ⟨unit.chars, limit⟩ (openBraces before) (openBrackets before)
        (ls.map lineText)).flatMap ('\n' :: ·) = spell out ∧
      Paired (Indented unit) before ls.flatten out := by
  induction hl generalizing before with
  | nil => exact ⟨[], rfl, .nil⟩
  | cons g body rest whole next there ih =>
    obtain ⟨k, more, hk, hg⟩ := hstart _ rfl
    cases hk
    rw [List.flatten_cons, List.cons_append] at hp
    have hinside : Everywhere Inside (g.char :: before) body :=
      hp.2.append_left.imp_of_mem fun _ h hh hplaced => ⟨hplaced, whole h hh⟩
    have hg' : g.char = '>' → before.head? ≠ some '=' := by
      intro hc hb
      have hnone := hp.1.glued hc hb
      rcases hg with rfl | hg
      · cases hb
      · exact hg.ne_none hnone
    obtain ⟨opens, closes, heffect, houter, hinner⟩ := effectFrom_line hg' hinside
    obtain ⟨out, hout, hpaired⟩ := exists_line_spelling unit limit hinside hg
    have hnext : Everywhere Placed (past before (g :: body)) rest.flatten := by
      rw [past_cons]
      exact hp.2.append_right
    obtain ⟨outs, houts, hpaireds⟩ := ih hnext fun line hline => by
      obtain ⟨h, more, he, hb⟩ := next line hline
      exact ⟨h, more, he, .inr hb⟩
    refine ⟨out ++ outs, ?_, hpaired.append hpaireds⟩
    have hline : (lineText (g :: body)).isEmpty = false := rfl
    have hinner' : (if opens then levelAt before g.char + 1 else levelAt before g.char) =
        openBraces (past before (g :: body)) := by
      rw [hinner]
      cases opens <;> rfl
    rw [List.map_cons, indentLines, hline, if_neg Bool.false_ne_true, heffect]
    simp only [houter, hinner', List.flatMap_append, houts, spell_append, ← hout]
    rfl

end TypeMismatch.Layout
