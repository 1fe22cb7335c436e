import TypeMismatch.Layout.Indent

/-!
# The nesting of a text

How many brackets and how many braces are open after a text.  Both counts read the whole text once
and know nothing of lines.  Texts are given with their last character first, so that what follows a
text is put in front.
-/

namespace TypeMismatch.Layout

/-- The brackets open after a text: angle brackets, parentheses and index brackets.  A bracket that
closes none changes nothing, and neither does the second character of an arrow. -/
def openBrackets : List Char → Nat
  | [] => 0
  | c :: before =>
    if c = '<' ∨ c = '(' ∨ c = '[' then openBrackets before + 1
    else if c = ')' ∨ c = ']' ∨ (c = '>' ∧ before.head? ≠ some '=') then openBrackets before - 1
    else openBrackets before

/-- The braces open after a text.  Only those outside of brackets count, and a brace that closes
none changes nothing. -/
def openBraces : List Char → Nat
  | [] => 0
  | c :: before =>
    if openBrackets before = 0 ∧ c = '\x7b' then openBraces before + 1
    else if openBrackets before = 0 ∧ c = '\x7d' then openBraces before - 1
    else openBraces before

theorem openBrackets_cons {c : Char} {before : List Char}
    (h : ¬ (c = '>' ∧ before.head? = some '=')) :
    openBrackets (c :: before) = depthAfter (openBrackets before) c := by
  simp only [openBrackets, depthAfter, isOpener, isCloser, Bool.or_eq_true, beq_iff_eq, or_assoc]
  split
  · rfl
  · congr 1
    apply propext
    constructor
    · rintro (rfl | rfl | ⟨rfl, -⟩) <;> simp
    · rintro (rfl | rfl | rfl)
      · exact .inr (.inr ⟨rfl, fun he => h ⟨rfl, he⟩⟩)
      · exact .inl rfl
      · exact .inr (.inl rfl)

theorem openBrackets_arrow (before : List Char) :
    openBrackets ('>' :: '=' :: before) = openBrackets before := by
  simp [openBrackets]

/-- A character that is no bracket leaves the number of open brackets. -/
theorem openBrackets_of_plain {c : Char} (ho : isOpener c = false) (hc : isCloser c = false)
    (before : List Char) : openBrackets (c :: before) = openBrackets before := by
  rw [openBrackets_cons, depthAfter, ho, hc]
  · rfl
  · rintro ⟨rfl, -⟩
    cases hc

/-- Outside of brackets, what is no brace leaves the number of open braces. -/
theorem openBraces_cons {c : Char} {before : List Char}
    (ho : openBrackets before = 0 → c ≠ '\x7b') (hc : openBrackets before = 0 → c ≠ '\x7d') :
    openBraces (c :: before) = openBraces before := by
  rw [openBraces, if_neg fun h => ho h.1 h.2, if_neg fun h => hc h.1 h.2]

end TypeMismatch.Layout
