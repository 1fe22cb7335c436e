import TypeMismatch.Proofs.Pattern.Outline
import TypeMismatch.Proofs.Text.Blank

/-!
# Sentences with four quotes

A fitting text has four quotes at least.  So if it is part of a sentence with no others, its quotes
are those of the sentence, and it names the same types (`Outline.Fits.eq_of_sentence`), whatever the
outline and wherever the text begins.
-/

namespace TypeMismatch.Pattern

/-- Words around two types in quotes. -/
structure Sentence where
  lead : List Char
  actual : List Char
  link : List Char
  expected : List Char
  trail : List Char

namespace Sentence

def text (s : Sentence) : List Char :=
  s.lead ++ (quote s.actual ++ (s.link ++ (quote s.expected ++ s.trail)))

/-- The parts of the sentence leave out a character. -/
structure Omits (s : Sentence) (c : Char) : Prop where
  lead : c ∉ s.lead
  actual : c ∉ s.actual
  link : c ∉ s.link
  expected : c ∉ s.expected
  trail : c ∉ s.trail

theorem count_text (s : Sentence) :
    s.text.count '\'' = s.lead.count '\'' + s.actual.count '\'' + s.link.count '\'' +
      s.expected.count '\'' + s.trail.count '\'' + 4 := by
  simp only [text, quote, List.count_append, List.count_cons_self, List.count_nil]
  omega

theorem count_text_of_omits {s : Sentence} (h : s.Omits '\'') : s.text.count '\'' = 4 := by
  rw [count_text, List.count_eq_zero.2 h.lead, List.count_eq_zero.2 h.actual,
    List.count_eq_zero.2 h.link, List.count_eq_zero.2 h.expected, List.count_eq_zero.2 h.trail]

theorem omits_of_count_text {s : Sentence} (h : s.text.count '\'' = 4) : s.Omits '\'' := by
  rw [count_text] at h
  constructor <;> rw [← List.count_eq_zero] <;> omega

theorem splitAt_text {s : Sentence} (h : s.Omits '\'') :
    Text.splitAt '\'' s.text = [s.lead, s.actual, s.link, s.expected, s.trail] := by
  simp only [text, quote, List.cons_append, List.append_assoc, List.nil_append]
  rw [Text.splitAt_append_cons h.lead, Text.splitAt_append_cons h.actual,
    Text.splitAt_append_cons h.link, Text.splitAt_append_cons h.expected,
    Text.splitAt_of_notMem h.trail]

/-- A sentence with four quotes is read in one way. -/
theorem eq_of_text_eq {s r : Sentence} (hs : s.Omits '\'') (h : r.text = s.text) : r = s := by
  have hr : r.Omits '\'' := by
    apply omits_of_count_text
    rw [h, count_text_of_omits hs]
  have hsplit := splitAt_text hr
  rw [h, splitAt_text hs] at hsplit
  cases s
  cases r
  simp_all

end Sentence

namespace Outline

variable {o : Outline}

theorem Fits.eq_of_sentence {s : Sentence} (hs : s.Omits '\'') (before : List Char)
    {v rest a b : List Char} (hv : o.Fits v a b) (h : before ++ (v ++ rest) = s.text) :
    a = s.actual ∧ b = s.expected ∧ SpellAll o.link s.link ∧
      ∃ u, SpellAll o.lead u ∧ before ++ u = s.lead := by
  obtain @⟨u, a, m, b, w, hu, -, hm, -, -⟩ := hv
  have hread : (⟨before ++ u, a, m, b, w ++ rest⟩ : Sentence) = s := by
    apply Sentence.eq_of_text_eq hs
    rw [← h]
    simp [Sentence.text]
  subst hread
  exact ⟨rfl, rfl, hm, u, hu, rfl⟩

/-- The outline has the words of the sentence and asks for nothing behind its types. -/
structure Describes (o : Outline) (s : Sentence) : Prop where
  lead : SpellAll o.lead s.lead
  actual : IsLine s.actual
  link : SpellAll o.link s.link
  expected : IsLine s.expected
  trail : SpellAll o.trail []

theorem Describes.exists_fits {s : Sentence} (h : o.Describes s) :
    ∃ v, o.Fits v s.actual s.expected ∧ s.text = v ++ s.trail := by
  refine ⟨_, .intro h.lead h.actual h.link h.expected h.trail, ?_⟩
  simp [Sentence.text]

end Outline

/-! ## One line -/

/-- No text of the words has a line end. -/
def Part.OneLine : Part → Prop
  | .text cs => '\n' ∉ cs
  | .either c d => c ≠ '\n' ∧ d ≠ '\n'
  | .line => True
  | .optional cs => '\n' ∉ cs

instance : DecidablePred Part.OneLine := fun p =>
  match p with
  | .text cs => inferInstanceAs (Decidable ('\n' ∉ cs))
  | .either c d => inferInstanceAs (Decidable (c ≠ '\n' ∧ d ≠ '\n'))
  | .line => inferInstanceAs (Decidable True)
  | .optional cs => inferInstanceAs (Decidable ('\n' ∉ cs))

theorem Part.Spells.notMem {p : Part} (hp : p.OneLine) {u : List Char} (h : p.Spells u) :
    '\n' ∉ u := by
  cases p with
  | text cs =>
    rw [h]
    exact hp
  | either c d =>
    rcases h with rfl | rfl
    · simpa using hp.1.symm
    · simpa using hp.2.symm
  | line => exact h
  | optional cs =>
    rcases h with rfl | rfl
    · exact List.not_mem_nil
    · exact hp

theorem SpellAll.notMem {ps : List Part} (hps : ∀ p ∈ ps, p.OneLine) {w : List Char}
    (h : SpellAll ps w) : '\n' ∉ w := by
  induction ps generalizing w with
  | nil =>
    rw [h]
    exact List.not_mem_nil
  | cons p ps ih =>
    obtain ⟨u, v, hu, hv, rfl⟩ := h
    have hfirst := hu.notMem (hps p List.mem_cons_self)
    have hrest := ih (fun q hq => hps q (List.mem_cons_of_mem p hq)) hv
    rw [List.mem_append]
    exact not_or.2 ⟨hfirst, hrest⟩

namespace Outline

structure OneLine (o : Outline) : Prop where
  lead : ∀ p ∈ o.lead, p.OneLine
  link : ∀ p ∈ o.link, p.OneLine
  trail : ∀ p ∈ o.trail, p.OneLine

theorem Fits.notMem {o : Outline} (ho : o.OneLine) {v a b : List Char} (hv : o.Fits v a b) :
    '\n' ∉ v := by
  obtain ⟨hu, ha, hm, hb, hw⟩ := hv
  have h₁ := hu.notMem ho.lead
  have h₂ := hm.notMem ho.link
  have h₃ := hw.notMem ho.trail
  have h₄ := ha.2
  have h₅ := hb.2
  simp_all [quote]

end Outline

/-- What follows a line: nothing, or a line end and any text. -/
def FollowsLine (more : List Char) : Prop := more = [] ∨ ∃ tail, more = '\n' :: tail

theorem prefix_line {v line more : List Char} (hmore : FollowsLine more) (hv : '\n' ∉ v)
    (h : v <+: line ++ more) : v <+: line := by
  rcases List.prefix_or_prefix_of_prefix h (List.prefix_append line more) with hline | ⟨r, rfl⟩
  · exact hline
  · have hr : r <+: more := (List.prefix_append_right_inj line).1 h
    cases r with
    | nil => simp
    | cons c r =>
      rcases hmore with rfl | ⟨tail, rfl⟩
      · exact absurd hr (by simp)
      · obtain rfl : c = '\n' := (List.cons_prefix_cons.1 hr).1
        simp at hv

end TypeMismatch.Pattern
