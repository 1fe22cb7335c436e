import TypeMismatch.Proofs.Layout.Lines

/-!
# What wrapping does to the glyphs

A long line is split at its bars and put together again.  In the end only gaps beside bars have
changed: a bar that begins a line gets the line break and the indentation, and what follows it one
blank (`exists_wrap_spelling`).
-/

namespace TypeMismatch.Layout

/-- The parts of a line between its bars. -/
def parts : List Glyph → List (List Glyph)
  | [] => [[]]
  | g :: rest => if g.char = '|' then [] :: parts rest else consFirst g (parts rest)

theorem exists_parts (gs : List Glyph) : ∃ part others, parts gs = part :: others := by
  cases gs with
  | nil => exact ⟨[], [], rfl⟩
  | cons g gs =>
    rw [parts]
    split
    · exact ⟨_, _, rfl⟩
    · cases parts gs <;> exact ⟨_, _, rfl⟩

theorem notMem_gap {c : Char} (hc : Text.isBlank c = false) (w : Gap) : c ∉ w.chars := by
  intro h
  rw [w.blank c h] at hc
  cases hc

theorem glyphs_splitAt_bar (gs : List Glyph) (tail : Gap) :
    (Text.splitAt '|' (spell gs ++ tail.chars)).map glyphs = parts gs := by
  have hbar : Text.isBlank '|' = false := rfl
  induction gs with
  | nil =>
    rw [spell_nil, List.nil_append, Text.splitAt_of_notMem (notMem_gap hbar tail)]
    simp [glyphs_gap, parts]
  | cons g gs ih =>
    rw [spell, parts]
    by_cases hg : g.char = '|'
    · rw [if_pos hg, hg, List.append_assoc, List.cons_append,
        Text.splitAt_append_cons (notMem_gap hbar g.gap), List.map_cons, ih, glyphs_gap]
    · rw [if_neg hg]
      rcases hs : Text.splitAt '|' (spell gs ++ tail.chars) with _ | ⟨part, others⟩
      · exact absurd hs (Text.splitAt_ne_nil _ _)
      · have hno : '|' ∉ g.gap.chars ++ [g.char] := by
          simpa [notMem_gap hbar g.gap] using fun e => hg e.symm
        have hcons := Text.splitAt_append hno hs
        rw [List.append_assoc, List.singleton_append] at hcons
        rw [List.append_assoc, List.cons_append, hcons, ← ih, hs, List.map_cons, List.map_cons,
          List.append_assoc, List.singleton_append, glyphs_glyph_append]
        rfl

/-- The trimmed texts between the bars of a line. -/
theorem map_trim_splitAt_bar (gs : List Glyph) (tail : Gap) :
    (Text.splitAt '|' (spell gs ++ tail.chars)).map Text.trim = (parts gs).map lineText := by
  rw [← glyphs_splitAt_bar gs tail, List.map_map]
  exact List.map_congr_left fun cs _ => trim_eq_spell cs

/-! ## Putting the parts together -/

/-- A part behind a bar. -/
def spaced : List Glyph → List Glyph
  | [] => []
  | g :: rest => g.withGap Gap.space :: rest

/-- The glyphs of a line whose bars begin lines; `afterBar` says whether a bar stands right
before. -/
def rewrap (edge : Gap) (afterBar : Bool) : List Glyph → List Glyph
  | [] => []
  | g :: rest =>
    if g.char = '|' then g.withGap edge :: rewrap edge true rest
    else (if afterBar then g.withGap Gap.space else g) :: rewrap edge false rest

/-- The blanks in front of a wrapped line: a line break and the indentation. -/
def edge (w : Gap) : Gap := Gap.newline ++ w

@[simp] theorem chars_edge (w : Gap) : (edge w).chars = '\n' :: w.chars := rfl

theorem continuation_lineText (w : Gap) {g : Glyph} (hg : g.char = '|') (part : List Glyph) :
    '\n' :: continuation w.chars (lineText part) =
      spell (g.withGap (edge w) :: spaced part) := by
  have hbar : Text.isBlank '|' = false := rfl
  have hcut : Text.trimRight (w.chars ++ '|' :: ' ' :: lineText part) =
      w.chars ++ '|' :: spell (spaced part) := by
    cases part with
    | nil =>
      have hsplit : w.chars ++ ['|', ' '] = (w.chars ++ ['|']) ++ [' '] := by simp
      have hblank : ∀ c ∈ [' '], Text.isBlank c = true := by simp; rfl
      simp only [lineText, flush, spaced, spell_nil]
      rw [hsplit, Text.trimRight_append_blank hblank, Text.trimRight_concat hbar]
    | cons h rest =>
      have hspell := trimRight_spell (g.withGap w :: spaced (h :: rest))
      simpa [spell, spaced, lineText, flush, hg] using hspell
  rw [continuation, hcut]
  simp [spell, hg]

theorem spell_rewrap (w : Gap) (afterBar : Bool) {gs part : List Glyph}
    {others : List (List Glyph)} (h : parts gs = part :: others) :
    spell (rewrap (edge w) afterBar gs) =
      spell (if afterBar then spaced part else part) ++
        others.flatMap fun p => '\n' :: continuation w.chars (lineText p) := by
  induction gs generalizing afterBar part others with
  | nil =>
    cases h
    cases afterBar <;> rfl
  | cons g gs ih =>
    obtain ⟨first, rest, hp⟩ := exists_parts gs
    rw [parts, hp] at h
    rw [rewrap]
    by_cases hg : g.char = '|'
    · rw [if_pos hg] at h ⊢
      cases h
      rw [spell, ih true hp, List.flatMap_cons, continuation_lineText w hg]
      cases afterBar <;> simp [spell, spaced]
    · rw [if_neg hg] at h ⊢
      cases h
      rw [spell, ih false hp]
      cases afterBar <;> simp [spell, spaced]

/-! ## The whole line -/

theorem flatMap_withTrailingBar (ls : List (List Char)) (h : ls ≠ []) :
    (withTrailingBar ls).flatMap ('\n' :: ·) = ls.flatMap ('\n' :: ·) ++ [' ', '|'] := by
  fun_induction withTrailingBar ls with
  | case1 => exact absurd rfl h
  | case2 line => simp
  | case3 line next rest ih =>
    rw [List.flatMap_cons, ih (by simp), ← List.append_assoc, ← List.flatMap_cons]

/-- The gaps of a wrapped line, but for its first glyph: what stands beside a bar may be new. -/
def Rewrapped (w : Gap) (before : List Char) (g h : Glyph) : Prop :=
  h.gap = g.gap ∨
    ((g.char = '|' ∨ before.head? = some '|') ∧
      (h.gap = Gap.space ∨ (g.char = '|' ∧ h.gap = w)))

theorem paired_refl (w : Gap) (before : List Char) (gs : List Glyph) :
    Paired (Rewrapped w) before gs gs := by
  induction gs generalizing before with
  | nil => exact .nil
  | cons g gs ih => exact .cons rfl (.inl rfl) (ih _)

theorem paired_rewrap (w : Gap) (before : List Char) (afterBar : Bool)
    (h : afterBar = true → before.head? = some '|') (gs : List Glyph) :
    Paired (Rewrapped w) before gs (rewrap w afterBar gs) := by
  induction gs generalizing before afterBar with
  | nil => exact .nil
  | cons g gs ih =>
    rw [rewrap]
    split
    · next hg =>
      exact .cons rfl (.inr ⟨.inl hg, .inr ⟨hg, rfl⟩⟩) (ih _ true fun _ => by rw [hg]; rfl)
    · cases afterBar with
      | false => exact .cons rfl (.inl rfl) (ih _ false fun he => by cases he)
      | true =>
        exact .cons rfl (.inr ⟨.inr (h rfl), .inl rfl⟩) (ih _ false fun he => by cases he)

/-- The lines of a text that is split at its bars, one after the other. -/
theorem flatMap_parts (w : Gap) (g : Glyph) (rest : List Glyph) {first : List Glyph}
    {others : List (List Glyph)} (h : parts (g :: rest) = first :: others) :
    ((if (lineText first).isEmpty then [] else [w.chars ++ lineText first]) ++
        (others.map lineText).map (continuation w.chars)).flatMap ('\n' :: ·) =
      spell (g.withGap (edge w) :: rewrap (edge w) (g.char == '|') rest) := by
  obtain ⟨part, more, hp⟩ := exists_parts rest
  rw [parts, hp] at h
  by_cases hg : g.char = '|'
  · rw [if_pos hg] at h
    cases h
    have hrest := spell_rewrap w true hp
    have hbar : (g.char == '|') = true := by simpa using hg
    have hempty : (lineText []).isEmpty = true := rfl
    rw [if_pos hempty, hbar, List.nil_append, List.map_map, List.flatMap_map, List.flatMap_cons,
      Function.comp_apply, continuation_lineText w hg, spell, spell, hrest]
    simp
  · rw [if_neg hg] at h
    cases h
    have hrest := spell_rewrap w false hp
    have hbar : (g.char == '|') = false := by simpa using hg
    have hfull : (lineText (g :: part)).isEmpty = false := rfl
    rw [hfull, if_neg Bool.false_ne_true, hbar, List.map_map, List.flatMap_append,
      List.flatMap_map, spell, hrest]
    simp [lineText, flush, spell]

theorem takeWhile_indented (w : Gap) (g : Glyph) (rest : List Glyph) :
    (w.chars ++ lineText (g :: rest)).takeWhile Text.isBlank = w.chars := by
  rw [List.takeWhile_append_of_pos w.blank, lineText, flush, spell]
  simp [g.inked]

/-- A line of glyphs ends in a bar exactly if its text does. -/
theorem eq_concat_of_getLast? {gs : List Glyph} (h : (spell gs).getLast? = some '|') :
    ∃ init z, gs = init ++ [z] ∧ z.char = '|' := by
  rcases List.eq_nil_or_concat gs with rfl | ⟨init, z, rfl⟩
  · cases h
  · refine ⟨init, z, List.concat_eq_append, ?_⟩
    have hlast : spell (init.concat z) = (spell init ++ z.gap.chars) ++ [z.char] := by
      simp [spell]
    rw [hlast, List.getLast?_concat] at h
    exact Option.some.inj h

theorem spell_line (w : Gap) (g : Glyph) (body : List Glyph) :
    [w.chars ++ lineText (g :: body)].flatMap ('\n' :: ·) = spell (g.withGap (edge w) :: body) := by
  simp [lineText, flush, spell]

theorem trimRight_trimLeft_indented (w : Gap) (line : List Glyph) :
    Text.trimRight (Text.trimLeft (w.chars ++ lineText line)) = lineText line := by
  have htrim : Text.trim (w.chars ++ lineText line) = lineText line := by
    rw [Text.trim_blank_append w.blank, lineText, trim_spell, flush_flush]
  exact htrim

/-- A line that ends in a bar is wrapped without it, and the bar is put back. -/
theorem exists_wrap_spelling_trailing (w : Gap) (before : List Char) {g : Glyph}
    {body : List Glyph} (h : (lineText (g :: body)).getLast? = some '|') :
    ∃ rest, (wrapAtBars (w.chars ++ lineText (g :: body))).flatMap ('\n' :: ·) =
        spell (g.withGap (edge w) :: rest) ∧
      Paired (Rewrapped (edge w)) (g.char :: before) body rest := by
  have hwhole := spell_line w g body
  have hkept := paired_refl (edge w) (g.char :: before) body
  obtain ⟨init, z, hsplit, hz⟩ := eq_concat_of_getLast? h
  have hinit : (lineText (g :: body)).dropLast = spell init ++ z.gap.chars := by
    have hlast : spell (init ++ [z]) = (spell init ++ z.gap.chars) ++ [z.char] := by
      simp [spell]
    rw [lineText, hsplit, hlast, List.dropLast_concat]
  rw [wrapAtBars]
  simp only [trimRight_trimLeft_indented, takeWhile_indented, h, beq_self_eq_true, ↓reduceIte,
    hinit, map_trim_splitAt_bar]
  rcases hparts : parts init with _ | ⟨first, _ | ⟨next, others⟩⟩
  · exact ⟨body, hwhole, hkept⟩
  · exact ⟨body, hwhole, hkept⟩
  · cases init with
    | nil => cases hparts
    | cons m ms =>
      obtain ⟨rfl, rfl⟩ : g.withGap Gap.none = m ∧ body = ms ++ [z] := by
        simpa [flush] using hsplit
      have hjoined := flatMap_parts w _ ms hparts
      refine ⟨rewrap (edge w) (g.char == '|') ms ++ [z.withGap Gap.space], ?_, ?_⟩
      · simp only [List.map_cons] at hjoined ⊢
        rw [flatMap_withTrailingBar _ (by simp), hjoined]
        simp [spell, hz]
      · refine (paired_rewrap (edge w) (g.char :: before) _ (by simp) ms).append ?_
        exact .cons rfl (.inr ⟨.inl hz, .inl rfl⟩) .nil

theorem exists_wrap_spelling_open (w : Gap) (before : List Char) {g : Glyph} {body : List Glyph}
    (h : (lineText (g :: body)).getLast? ≠ some '|') :
    ∃ rest, (wrapAtBars (w.chars ++ lineText (g :: body))).flatMap ('\n' :: ·) =
        spell (g.withGap (edge w) :: rest) ∧
      Paired (Rewrapped (edge w)) (g.char :: before) body rest := by
  have hwhole := spell_line w g body
  have hkept := paired_refl (edge w) (g.char :: before) body
  have hmembers : (Text.splitAt '|' (lineText (g :: body))).map Text.trim =
      (parts (g.withGap Gap.none :: body)).map lineText := by
    have hsame := map_trim_splitAt_bar (g.withGap Gap.none :: body) Gap.none
    rwa [Gap.chars_none, List.append_nil] at hsame
  have hno : ((lineText (g :: body)).getLast? == some '|') = false := by simpa using h
  rw [wrapAtBars]
  simp only [trimRight_trimLeft_indented, takeWhile_indented, hno, Bool.false_eq_true, ↓reduceIte,
    hmembers]
  rcases hparts : parts (g.withGap Gap.none :: body) with _ | ⟨first, _ | ⟨next, others⟩⟩
  · exact ⟨body, hwhole, hkept⟩
  · exact ⟨body, hwhole, hkept⟩
  · have hjoined := flatMap_parts w _ body hparts
    refine ⟨rewrap (edge w) (g.char == '|') body, ?_, ?_⟩
    · simp only [List.map_cons] at hjoined ⊢
      exact hjoined
    · exact paired_rewrap (edge w) (g.char :: before) _ (by simp) body

/-- **Wrapping a line changes gaps beside bars only**, and begins new lines at bars only. -/
theorem exists_wrap_spelling (w : Gap) (limit : Nat) (before : List Char) (g : Glyph)
    (body : List Glyph) :
    ∃ rest, (wrap limit (w.chars ++ lineText (g :: body))).flatMap ('\n' :: ·) =
        spell (g.withGap (edge w) :: rest) ∧
      Paired (Rewrapped (edge w)) (g.char :: before) body rest := by
  rw [wrap]
  split
  · exact ⟨body, spell_line w g body, paired_refl (edge w) (g.char :: before) body⟩
  · by_cases htrailing : (lineText (g :: body)).getLast? = some '|'
    · exact exists_wrap_spelling_trailing w before htrailing
    · exact exists_wrap_spelling_open w before htrailing

end TypeMismatch.Layout
