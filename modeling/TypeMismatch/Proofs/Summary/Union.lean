import Mathlib.Data.List.Flatten
import TypeMismatch.Proofs.Summary.OneLine

/-!
# The summary of a union

A union is split at the bars outside of all brackets.  In a text that joins members with bars these
are the joining bars, as long as no member leaves a bracket open (`alternatives_unionText`), so the
union is shown by its first members.  The rule for object types comes first, though: a union that
opens with a brace and names a member of an object type is shown by such names, without its
bars (`summarize_union_iff`).
-/

namespace TypeMismatch.Summary

/-! ## Brackets -/

/-- The brackets of all four kinds that are open after a text, which is given with its last
character first.  A bracket that closes none changes nothing, and neither does the second character
of an arrow. -/
def openBrackets : List Char → Nat
  | [] => 0
  | c :: before =>
    if c = '<' ∨ c = '(' ∨ c = '[' ∨ c = '\x7b' then openBrackets before + 1
    else if c = ')' ∨ c = ']' ∨ c = '\x7d' ∨ (c = '>' ∧ before.head? ≠ some '=') then
      openBrackets before - 1
    else openBrackets before

/-- An equals sign at the end of the text before would make an arrow. -/
theorem openBrackets_append {before : List Char} (h0 : openBrackets before = 0)
    (hhead : before.head? ≠ some '=') (xs : List Char) :
    openBrackets (xs ++ before) = openBrackets xs := by
  induction xs with
  | nil => exact h0
  | cons c xs ih =>
    rw [List.cons_append, openBrackets, openBrackets, ih]
    cases xs with
    | nil => simp [hhead]
    | cons d xs => rfl

/-- A character that does not split the text. -/
theorem alternativesFrom_cons {before part rest : List Char} {c : Char}
    (h : c = '|' → openBrackets before ≠ 0) :
    alternativesFrom (openBrackets before) before.head? part (c :: rest) =
      alternativesFrom (openBrackets (c :: before)) (some c) (c :: part) rest := by
  rw [alternativesFrom, openBrackets]
  by_cases hopen : isOpener c = true
  · have hchar : c = '<' ∨ c = '(' ∨ c = '[' ∨ c = '\x7b' := by
      simpa [isOpener, or_assoc] using hopen
    rw [if_pos hopen, if_pos hchar]
  · have hchar : ¬ (c = '<' ∨ c = '(' ∨ c = '[' ∨ c = '\x7b') := by
      simpa [isOpener, or_assoc] using hopen
    rw [if_neg hopen, if_neg hchar]
    by_cases hclose : isCloser c = true
    · rw [if_pos hclose]
      by_cases harrow : c = '>' ∧ before.head? = some '='
      · simp [harrow]
      · have hcloser : c = ')' ∨ c = ']' ∨ c = '\x7d' ∨ (c = '>' ∧ before.head? ≠ some '=') := by
          simp only [isCloser, Bool.or_eq_true, beq_iff_eq] at hclose
          grind
        have hflag : (c == '>' && before.head? == some '=') = false := by simpa using harrow
        simp only [hflag, if_pos hcloser]
        rfl
    · have hno : ¬ (c = ')' ∨ c = ']' ∨ c = '\x7d' ∨ (c = '>' ∧ before.head? ≠ some '=')) := by
        simp only [isCloser, Bool.or_eq_true, beq_iff_eq] at hclose
        grind
      have hbar : (c == '|' && openBrackets before == 0) = false := by simpa using h
      rw [if_neg hclose, if_neg hno, hbar]
      rfl

/-- Bars inside of brackets do not split the text. -/
theorem alternativesFrom_append {before part m : List Char} (rest : List Char)
    (h : ∀ u v, m = u ++ '|' :: v → openBrackets (u.reverse ++ before) ≠ 0) :
    alternativesFrom (openBrackets before) before.head? part (m ++ rest) =
      alternativesFrom (openBrackets (m.reverse ++ before)) (m.reverse ++ before).head?
        (m.reverse ++ part) rest := by
  induction m generalizing before part with
  | nil => rfl
  | cons c m ih =>
    have hbar : c = '|' → openBrackets before ≠ 0 := by
      rintro rfl
      exact h [] m rfl
    have hrest : ∀ u v, m = u ++ '|' :: v → openBrackets (u.reverse ++ c :: before) ≠ 0 := by
      rintro u v rfl
      have hsplit := h (c :: u) v rfl
      simpa using hsplit
    have hstep := @ih (c :: before) (c :: part) hrest
    rw [List.cons_append, alternativesFrom_cons hbar]
    simpa using hstep

/-- Every bar of the text is inside of brackets. -/
def BarsInside (cs : List Char) : Prop := ∀ u v, cs = u ++ '|' :: v → openBrackets u.reverse ≠ 0

theorem barsInside_iff (cs : List Char) : BarsInside cs ↔
    ∀ i < cs.length, cs[i]? = some '|' → openBrackets (cs.take i).reverse ≠ 0 := by
  constructor
  · intro h i hi hchar
    have hsplit := List.take_append_drop i cs
    rw [List.drop_eq_getElem_cons hi, (List.getElem?_eq_some_iff.1 hchar).2] at hsplit
    exact h _ _ hsplit.symm
  · rintro h u v rfl
    have hbar := h u.length (by simp) (by simp)
    simpa using hbar

instance (cs : List Char) : Decidable (BarsInside cs) := decidable_of_iff _ (barsInside_iff cs).symm

/-! ## Unions -/

/-- A type that can be a member of a union: it has no blanks but single spaces inside, leaves no
bracket open, and has bars inside of brackets only.  A closing bracket without an opening one is
allowed. -/
structure IsMember (m : List Char) : Prop where
  inked : Text.Inked m
  spaced : Text.joinWith [' '] (Text.words m) = m
  closed : openBrackets m.reverse = 0
  bars : ∀ u v, m = u ++ '|' :: v → openBrackets u.reverse ≠ 0

theorem isMember_iff (m : List Char) : IsMember m ↔
    m ≠ [] ∧ Text.trim m = m ∧ Text.joinWith [' '] (Text.words m) = m ∧
      openBrackets m.reverse = 0 ∧
      ∀ i < m.length, m[i]? = some '|' → openBrackets (m.take i).reverse ≠ 0 := by
  constructor
  · intro h
    exact ⟨h.inked.ne_nil, h.inked.trim_eq, h.spaced, h.closed, (barsInside_iff m).1 h.bars⟩
  · rintro ⟨hne, htrim, hspaced, hclosed, hbars⟩
    exact ⟨htrim ▸ Text.inked_trim (htrim.symm ▸ hne), hspaced, hclosed,
      (barsInside_iff m).2 hbars⟩

instance (m : List Char) : Decidable (IsMember m) := decidable_of_iff _ (isMember_iff m).symm

/-- What stands between two members. -/
def bar : List Char := [' ', '|', ' ']

/-- A union as it is written on one line. -/
def unionText (ms : List (List Char)) : List Char := Text.joinWith bar ms

theorem unionText_cons_cons (m next : List Char) (ms : List (List Char)) :
    unionText (m :: next :: ms) = m ++ ' ' :: '|' :: ' ' :: unionText (next :: ms) := by
  simp [unionText, Text.joinWith, bar]

theorem inked_unionText {ms : List (List Char)} (hms : ∀ m ∈ ms, IsMember m) (hne : ms ≠ []) :
    Text.Inked (unionText ms) := by
  constructor
  · obtain ⟨m, rest, rfl⟩ := List.exists_cons_of_ne_nil hne
    obtain ⟨c, cs, rfl, hc⟩ := (hms m List.mem_cons_self).inked.first
    have happend := Text.joinWith_append_cons bar [c] cs rest
    rw [List.singleton_append] at happend
    exact ⟨c, _, happend, hc⟩
  · exact Text.exists_concat_joinWith bar hne fun m hm => (hms m hm).inked.last

theorem words_ne_nil_of_spaced {cs : List Char} (h : Text.joinWith [' '] (Text.words cs) = cs)
    (hne : cs ≠ []) : Text.words cs ≠ [] := by
  intro hnil
  rw [hnil] at h
  exact hne h.symm

/-- A union is on one line already. -/
theorem joinWith_words_unionText {ms : List (List Char)} (hms : ∀ m ∈ ms, IsMember m)
    (hne : ms ≠ []) : Text.joinWith [' '] (Text.words (unionText ms)) = unionText ms := by
  induction ms with
  | nil => exact absurd rfl hne
  | cons m ms ih =>
    have hm := hms m List.mem_cons_self
    cases ms with
    | nil => exact hm.spaced
    | cons next ms =>
      have hrest : ∀ q ∈ next :: ms, IsMember q := fun q hq => hms q (List.mem_cons_of_mem m hq)
      have hunion := ih hrest (List.cons_ne_nil next ms)
      have hfirst := words_ne_nil_of_spaced hm.spaced hm.inked.ne_nil
      have hnext := words_ne_nil_of_spaced hunion
        (inked_unionText hrest (List.cons_ne_nil next ms)).ne_nil
      have htext : unionText (m :: next :: ms) =
          m ++ ' ' :: (['|'] ++ ' ' :: unionText (next :: ms)) := unionText_cons_cons m next ms
      have hbar : Text.words ['|'] = [['|']] := rfl
      rw [htext, Text.words_append_blank rfl, Text.words_append_blank rfl, hbar,
        Text.joinWith_append _ hfirst (by simp), Text.joinWith_append _ (by simp) hnext,
        hm.spaced, hunion]
      rfl

/-- The members are the parts between the bars. -/
theorem alternativesFrom_unionText {ms : List (List Char)} (hms : ∀ m ∈ ms, IsMember m)
    (hne : ms ≠ []) {before part : List Char} (h0 : openBrackets before = 0)
    (hhead : before.head? ≠ some '=') (hpart : ∀ c ∈ part, Text.isBlank c = true) :
    (alternativesFrom 0 before.head? part (unionText ms)).map Text.trim = ms := by
  induction ms generalizing before part with
  | nil => exact absurd rfl hne
  | cons m ms ih =>
    have hm := hms m List.mem_cons_self
    have hbars : ∀ u v, m = u ++ '|' :: v → openBrackets (u.reverse ++ before) ≠ 0 := by
      intro u v huv
      rw [openBrackets_append h0 hhead]
      exact hm.bars u v huv
    have hclosed : openBrackets (m.reverse ++ before) = 0 := by
      rw [openBrackets_append h0 hhead]
      exact hm.closed
    have hread := fun rest => @alternativesFrom_append before part m rest hbars
    rw [h0, hclosed] at hread
    have hblanks : ∀ c ∈ part.reverse, Text.isBlank c = true := by simpa using hpart
    cases ms with
    | nil =>
      have htrim := hm.inked.trim_around hblanks (v := []) (by simp)
      simp only [unionText, Text.joinWith]
      rw [← List.append_nil m, hread, alternativesFrom]
      simpa using htrim
    | cons next ms =>
      -- A blank is left over on each side of the bar: one ends this part, one begins the next.
      have hspace : ∀ c ∈ [' '], Text.isBlank c = true := by
        intro c hc
        rw [List.mem_singleton.1 hc]
        rfl
      have hrest := @ih (fun q hq => hms q (List.mem_cons_of_mem m hq)) (List.cons_ne_nil next ms)
        (' ' :: '|' :: ' ' :: (m.reverse ++ before)) [' ']
        (by simpa [openBrackets] using hclosed) (by simp) hspace
      have htrim := hm.inked.trim_around hblanks hspace
      rw [unionText_cons_cons, hread]
      simpa [alternativesFrom, isOpener, isCloser, htrim] using hrest

theorem alternatives_unionText {ms : List (List Char)} (hms : ∀ m ∈ ms, IsMember m)
    (hne : ms ≠ []) : alternatives (unionText ms) = ms := by
  have hread := @alternativesFrom_unionText ms hms hne [] [] rfl (by simp) (by simp)
  rw [List.head?_nil] at hread
  rw [alternatives, hread, List.filter_eq_self]
  intro m hm
  simpa using (hms m hm).inked.ne_nil

/-! ## The width of names -/

/-- Names with a colon behind each. -/
def labelled (names : List (List Char)) : List Char := names.flatMap (· ++ [':'])

/-- The names are found in the text from left to right, with their colons. -/
theorem labelled_memberNamesFrom_sublist (fuel : Nat) (cs : List Char) :
    (labelled (memberNamesFrom fuel cs)).Sublist cs := by
  induction fuel generalizing cs with
  | zero => exact List.nil_sublist cs
  | succ fuel ih =>
    cases cs with
    | nil => exact List.nil_sublist []
    | cons c cs =>
      have hafter := (List.dropWhile_suffix (l := cs) isNamePart).sublist
      rw [memberNamesFrom]
      split
      · dsimp only
        split
        · next next hnext =>
          have hrest := ((ih next).cons_cons ':').trans (colon_suffix_of_afterColon? hnext).sublist
          have hname := (List.Sublist.refl (c :: cs.takeWhile isNamePart)).append hrest
          have htext : c :: cs.takeWhile isNamePart ++ cs.dropWhile isNamePart = c :: cs := by
            rw [List.cons_append, List.takeWhile_append_dropWhile]
          rw [htext] at hname
          simpa [labelled] using hname
        · exact ((ih _).trans hafter).cons c
      · exact (ih cs).cons c

theorem eraseDups_sublist (parts : List (List Char)) : parts.eraseDups.Sublist parts := by
  match parts with
  | [] => exact List.Sublist.slnil
  | part :: parts =>
    rw [List.eraseDups_cons]
    have hrest := eraseDups_sublist (parts.filter fun q => !q == part)
    exact (hrest.trans List.filter_sublist).cons_cons part
termination_by parts.length
decreasing_by exact Nat.lt_succ_of_le (List.length_filter_le _ _)

theorem labelled_memberNames_sublist (cs : List Char) : (labelled (memberNames cs)).Sublist cs :=
  ((eraseDups_sublist _).flatMap _).trans (labelled_memberNamesFrom_sublist cs.length cs)

/-- What an object type with members is shown as. -/
def byNames (cs : List Char) : List Char :=
  '\x7b' :: ' ' :: (firstItems [',', ' '] (memberNames cs) ++ [' ', '\x7d'])

theorem length_firstItems_le (names : List (List Char)) :
    (firstItems [',', ' '] names).length ≤ (labelled names).length + 5 := by
  rcases names with _ | ⟨a, _ | ⟨b, _ | ⟨c, _ | ⟨d, names⟩⟩⟩⟩ <;>
    simp [firstItems, maxItems, ellipsis, Text.joinWith, labelled] <;> omega

/-- Can the character be in a name or the colon behind it? -/
def isLabel (c : Char) : Bool := isNamePart c || c == ':'

theorem length_byNames_le (cs : List Char) : (byNames cs).length ≤ cs.countP isLabel + 9 := by
  have hall : ∀ c ∈ labelled (memberNames cs), isLabel c = true := by
    intro c hc
    obtain ⟨name, hname, hc⟩ := List.mem_flatMap.1 hc
    rcases List.mem_append.1 hc with hc | hc
    · simp [isLabel, (mem_of_mem_memberNames hname hc).2]
    · simp [isLabel, List.mem_singleton.1 hc]
  have hcount := (labelled_memberNames_sublist cs).countP_le (p := isLabel)
  rw [List.countP_eq_length.2 hall] at hcount
  have hshown := length_firstItems_le (memberNames cs)
  simp only [byNames, List.length_cons, List.length_append, List.length_nil]
  omega

/-! ## Summaries -/

/-- A union of more than three members has room for its names: the bars take as much as what is
around the names. -/
theorem length_byNames_le_unionText {ms : List (List Char)} (h : 3 < ms.length)
    (hbrace : (unionText ms).head? = some '\x7b') :
    (byNames (unionText ms)).length ≤ (unionText ms).length := by
  have hshown := length_byNames_le (unionText ms)
  have htotal := List.length_eq_countP_add_countP isLabel (l := unionText ms)
  suffices hothers : 10 ≤ (unionText ms).countP fun c => !isLabel c by
    simp only [Bool.not_eq_true, Bool.decide_eq_false] at htotal
    omega
  obtain ⟨a, b, c, d, rest, rfl⟩ : ∃ a b c d rest, ms = a :: b :: c :: d :: rest := by
    rcases ms with _ | ⟨a, _ | ⟨b, _ | ⟨c, _ | ⟨d, rest⟩⟩⟩⟩
    · simp at h
    · simp at h
    · simp at h
    · simp at h
    · exact ⟨a, b, c, d, rest, rfl⟩
  have hbar : bar.countP (fun c => !isLabel c) = 3 := rfl
  cases a with
  | nil =>
    simp [unionText, Text.joinWith, bar] at hbrace
  | cons x a =>
    have hx : x = '\x7b' := by simpa [unionText, Text.joinWith] using hbrace
    have hfirst : (x :: a).countP (fun c => !isLabel c) = a.countP (fun c => !isLabel c) + 1 :=
      List.countP_cons_of_pos (by rw [hx]; rfl)
    simp only [unionText, Text.joinWith, List.countP_append, hbar, hfirst]
    omega

/-- Is the text taken for an object type: does it open with a brace and name a member? -/
def OpensAsObject (cs : List Char) : Prop := cs.head? = some '\x7b' ∧ memberNames cs ≠ []

/-- The first three members of a union, and dots for others. -/
def firstThree (ms : List (List Char)) : List Char :=
  Text.joinWith bar (ms.take 3) ++ if 3 < ms.length then [' ', '|', ' ', '.', '.', '.'] else []

/-- What a union is to be shown as: its first members, or the cut text if they take more than the
text. -/
def byMembers (ms : List (List Char)) : List Char :=
  if (unionText ms).length < (firstThree ms).length then truncate (unionText ms) else firstThree ms

theorem truncate_eq_self_iff (cs : List Char) : truncate cs = cs ↔ cs.length ≤ 40 := by
  unfold truncate
  split
  · next h => exact iff_of_true rfl h
  · next h =>
    refine iff_of_false ?_ h
    intro heq
    have hlen := congrArg List.length heq
    have hcut :=
      (Text.prefix_dropRight Text.isBlank (cs.take (longLimit - ellipsis.length))).length_le
    simp only [Text.trimRight, List.length_append, List.length_take, longLimit, ellipsis,
      List.length_cons, List.length_nil] at hlen hcut h
    omega

theorem byMembers_of_length_le {ms : List (List Char)} (h : ms.length ≤ 3) :
    byMembers ms = unionText ms := by
  simp [byMembers, firstThree, unionText, List.take_of_length_le h, Nat.not_lt.2 h]

theorem bar_notMem_byNames (cs : List Char) : '|' ∉ byNames cs := by
  intro h
  simp only [byNames, List.mem_cons, List.mem_append, List.not_mem_nil, or_false] at h
  rcases h with h | h | h | h | h
  · cases h
  · cases h
  · rcases mem_firstItems h with h | h | ⟨name, hname, h⟩
    · simp at h
    · cases h
    · have hpart := (mem_of_mem_memberNames hname h).2
      cases hpart
  · cases h
  · cases h

theorem bar_mem_unionText {ms : List (List Char)} (h : 2 ≤ ms.length) : '|' ∈ unionText ms := by
  rcases ms with _ | ⟨a, _ | ⟨b, rest⟩⟩
  · simp at h
  · simp at h
  · simp [unionText, Text.joinWith, bar]

theorem truncate_ne_byNames {cs : List Char} (h : '|' ∈ cs) (ds : List Char) :
    truncate cs ≠ byNames ds := by
  unfold truncate
  split
  · intro heq
    exact bar_notMem_byNames ds (heq ▸ h)
  · -- A text that was cut ends with a dot, the names end with a brace.
    intro heq
    have hlast := congrArg List.getLast? heq
    simp only [byNames, ellipsis] at hlast
    rw [List.append_cons, List.append_cons, List.getLast?_concat] at hlast
    simp [List.getLast?_cons, List.getLast?_append] at hlast

theorem byMembers_ne_byNames {ms : List (List Char)} (h : 2 ≤ ms.length) (cs : List Char) :
    byMembers ms ≠ byNames cs := by
  have hshown : '|' ∈ Text.joinWith bar (ms.take 3) :=
    bar_mem_unionText (by rw [List.length_take]; omega)
  unfold byMembers
  split
  · exact truncate_ne_byNames (bar_mem_unionText h) cs
  · intro heq
    exact bar_notMem_byNames cs (heq ▸ List.mem_append_left _ hshown)

theorem summary_unionText {ms : List (List Char)} (hms : ∀ m ∈ ms, IsMember m)
    (hlen : 2 ≤ ms.length) (hlong : 25 < (unionText ms).length) :
    (OpensAsObject (unionText ms) → summary (unionText ms) =
        if (unionText ms).length < (byNames (unionText ms)).length then truncate (unionText ms)
        else byNames (unionText ms)) ∧
      (¬ OpensAsObject (unionText ms) → summary (unionText ms) = byMembers ms) := by
  have hne : ms ≠ [] := by
    rintro rfl
    simp at hlen
  have hline : summary (unionText ms) =
      if (unionText ms).length < (shorten (unionText ms)).length then truncate (unionText ms)
      else shorten (unionText ms) := by
    unfold summary
    simp only [(inked_unionText hms hne).trim_eq, joinWith_words_unionText hms hne]
    exact if_neg (Nat.not_le.2 hlong)
  constructor
  · intro h
    have hshort : shorten (unionText ms) = byNames (unionText ms) := by
      simp [shorten, h.1, ofObject?, h.2, byNames]
    rw [hline, hshort]
  · intro h
    have hobject : (if (unionText ms).head? == some '\x7b' then ofObject? (unionText ms) else none)
        = none := by
      by_cases hbrace : (unionText ms).head? = some '\x7b'
      · by_cases hnames : memberNames (unionText ms) = []
        · simp [ofObject?, hnames]
        · exact absurd ⟨hbrace, hnames⟩ h
      · simp [hbrace]
    have hunion : ofUnion? (unionText ms) = some (firstItems bar ms) := by
      rw [ofUnion?, alternatives_unionText hms hne]
      exact if_neg (by omega)
    have hshort : shorten (unionText ms) = firstItems bar ms := by
      simp only [shorten, hobject, hunion, Option.none_or, Option.getD_some]
    have hitems : firstItems bar ms = firstThree ms := by
      by_cases hmore : 3 < ms.length <;>
        simp [firstItems, firstThree, maxItems, ellipsis, bar, hmore]
    rw [hline, hshort, hitems, byMembers]

/-- **When a union is shown by its members.**  A long union is, unless it opens with a brace and
names a member: then it is shown by names, without a bar, and is kept only if it is short and the
names would make it longer. -/
theorem summarize_union_iff {ms : List (List Char)} (hms : ∀ m ∈ ms, IsMember m)
    (hlen : 2 ≤ ms.length) (hlong : 25 < (unionText ms).length) :
    (summarize (String.ofList (unionText ms)) = String.ofList (byMembers ms) ↔
      ¬ OpensAsObject (unionText ms) ∨
        (ms.length ≤ 3 ∧ (unionText ms).length ≤ 40 ∧
          (unionText ms).length < (byNames (unionText ms)).length)) ∧
      (OpensAsObject (unionText ms) →
        (byNames (unionText ms)).length ≤ (unionText ms).length →
        summarize (String.ofList (unionText ms)) = String.ofList (byNames (unionText ms)) ∧
          '|' ∉ byNames (unionText ms)) := by
  obtain ⟨hobject, hmembers⟩ := summary_unionText hms hlen hlong
  rw [summarize, String.toList_ofList, String.ofList_inj, String.ofList_inj]
  refine ⟨?_, fun h hfits => ⟨by rw [hobject h, if_neg (Nat.not_lt.2 hfits)],
    bar_notMem_byNames _⟩⟩
  by_cases h : OpensAsObject (unionText ms)
  · rw [hobject h]
    by_cases hfits : (byNames (unionText ms)).length ≤ (unionText ms).length
    · rw [if_neg (Nat.not_lt.2 hfits)]
      refine iff_of_false (byMembers_ne_byNames hlen _).symm ?_
      rintro (hnot | ⟨-, -, hlonger⟩)
      · exact hnot h
      · omega
    · have hfew : ms.length ≤ 3 :=
        Nat.not_lt.1 fun hmany => hfits (length_byNames_le_unionText hmany h.1)
      rw [if_pos (Nat.not_le.1 hfits), byMembers_of_length_le hfew, truncate_eq_self_iff]
      constructor
      · exact fun hshort => .inr ⟨hfew, hshort, Nat.not_le.1 hfits⟩
      · rintro (hnot | ⟨-, hshort, -⟩)
        · exact absurd h hnot
        · exact hshort
  · exact iff_of_true (hmembers h) (.inl h)

/-- Four members with arrows and with bars inside of brackets. -/
theorem summarize_union_of_four :
    summarize "(a: string) => void | Map<string, A | B> | [x | y] | \x7b b: number \x7d" =
      "(a: string) => void | Map<string, A | B> | [x | y] | ..." := by
  let ms := ["(a: string) => void".toList, "Map<string, A | B>".toList, "[x | y]".toList,
    "\x7b b: number \x7d".toList]
  have hiff := (@summarize_union_iff ms (by decide +kernel) (by decide) (by decide +kernel)).1
  have hopens : ¬ OpensAsObject (unionText ms) := fun h => absurd h.1 (by decide)
  exact (hiff.2 (.inl hopens)).trans (by decide +kernel)

/-- An object type, or nothing. -/
def objectOrUndefined : List (List Char) :=
  ["\x7b a: string; b: number \x7d".toList, "undefined".toList]

/-- It is shown as the object type alone. -/
theorem summarize_objectOrUndefined :
    (∀ m ∈ objectOrUndefined, IsMember m) ∧ 2 ≤ objectOrUndefined.length ∧
      25 < (unionText objectOrUndefined).length ∧
      String.ofList (byMembers objectOrUndefined) =
        "\x7b a: string; b: number \x7d | undefined" ∧
      summarize "\x7b a: string; b: number \x7d | undefined" = "\x7b a, b \x7d" := by
  decide +kernel

end TypeMismatch.Summary
