import TypeMismatch.Proofs.Text.Blank

/-!
# Words with single spaces between them

The words of a text, joined with one space each, are the text with every run of blanks between
other characters made one space, and without the blanks at its ends (`joinWith_words`).  Read from
left to right, a run becomes its space only when another character follows, so the text after such
a character does not depend on what is before it (`exists_singleSpacedFrom_append`).
-/

namespace TypeMismatch.Text

/-- The space that a run of blanks becomes, if there is one. -/
def spaceIf (gap : Bool) : List Char := if gap then [' '] else []

/-- The rest of a text with each run of blanks in front of another character as one space; `gap`
says that such a run has begun. -/
def singleSpacedFrom (gap : Bool) : List Char → List Char
  | [] => []
  | c :: rest =>
    if isBlank c then singleSpacedFrom true rest
    else spaceIf gap ++ c :: singleSpacedFrom false rest

@[simp] theorem spaceIf_false : spaceIf false = [] := rfl

@[simp] theorem spaceIf_true : spaceIf true = [' '] := rfl

@[simp] theorem withoutBlanks_spaceIf (gap : Bool) : withoutBlanks (spaceIf gap) = [] := by
  cases gap <;> rfl

@[simp] theorem singleSpacedFrom_nil (gap : Bool) : singleSpacedFrom gap [] = [] := rfl

theorem singleSpacedFrom_blank (gap : Bool) {c : Char} (hc : isBlank c = true) (cs : List Char) :
    singleSpacedFrom gap (c :: cs) = singleSpacedFrom true cs := by
  simp [singleSpacedFrom, hc]

theorem singleSpacedFrom_ink (gap : Bool) {c : Char} (hc : isBlank c = false) (cs : List Char) :
    singleSpacedFrom gap (c :: cs) = spaceIf gap ++ c :: singleSpacedFrom false cs := by
  simp [singleSpacedFrom, hc]

/-- Characters that are not blank stay as they are. -/
theorem singleSpacedFrom_ink_append {a : List Char} (ha : ∀ c ∈ a, isBlank c = false)
    (cs : List Char) : singleSpacedFrom false (a ++ cs) = a ++ singleSpacedFrom false cs := by
  induction a with
  | nil => rfl
  | cons c a ih =>
    have hrest := ih fun d hd => ha d (List.mem_cons_of_mem c hd)
    rw [List.cons_append, singleSpacedFrom_ink false (ha c List.mem_cons_self), hrest]
    rfl

/-! ## Joined words -/

theorem joinWith_cons (sep part : List Char) (parts : List (List Char)) :
    joinWith sep (part :: parts) = part ++ parts.flatMap (sep ++ ·) := by
  cases parts with
  | nil => simp [joinWith]
  | cons next parts =>
    rw [joinWith, List.append_assoc, append_joinWith sep (List.cons_ne_nil next parts)]

theorem words_of_ink {a : List Char} (hne : a ≠ []) (ha : ∀ c ∈ a, isBlank c = false) :
    words a = [a] := by
  simp [words, splitWhere_of_neg ha, hne]

/-- A word that has begun goes on up to the first blank; each word after it has a space in front. -/
theorem flatMap_words (cs : List Char) :
    (words cs).flatMap ([' '] ++ ·) = singleSpacedFrom true cs ∧
      ∀ a, a ≠ [] → (∀ c ∈ a, isBlank c = false) →
        joinWith [' '] (words (a ++ cs)) = a ++ singleSpacedFrom false cs := by
  induction cs with
  | nil =>
    refine ⟨rfl, fun a hne ha => ?_⟩
    rw [List.append_nil, words_of_ink hne ha]
    simp [joinWith]
  | cons c cs ih =>
    obtain ⟨hgap, hword⟩ := ih
    cases hc : isBlank c with
    | true =>
      have hwords : words (c :: cs) = words cs := words_append_blank hc [] cs
      refine ⟨by rw [hwords, hgap, singleSpacedFrom_blank true hc], fun a hne ha => ?_⟩
      rw [words_append_blank hc, words_of_ink hne ha, List.singleton_append, joinWith_cons, hgap,
        singleSpacedFrom_blank false hc]
    | false =>
      have hfirst := hword [c] (List.cons_ne_nil c []) (by simpa using hc)
      have hne : words (c :: cs) ≠ [] := by
        intro hnil
        rw [List.singleton_append, hnil] at hfirst
        cases hfirst
      refine ⟨?_, fun a hnea ha => ?_⟩
      · rw [← append_joinWith [' '] hne, singleSpacedFrom_ink true hc]
        exact congrArg ([' '] ++ ·) hfirst
      · have hlonger : ∀ d ∈ a ++ [c], isBlank d = false := by
          intro d hd
          rcases List.mem_append.1 hd with hd | hd
          · exact ha d hd
          · rwa [List.mem_singleton.1 hd]
        have hstep := hword (a ++ [c]) (by simp) hlonger
        rw [singleSpacedFrom_ink false hc]
        simpa using hstep

/-- **The words of a text that begins with one, joined with single spaces.** -/
theorem joinWith_words {cs : List Char} (h : Inked cs) :
    joinWith [' '] (words cs) = singleSpacedFrom false cs := by
  obtain ⟨c, rest, rfl, hc⟩ := h.first
  have hword := (flatMap_words rest).2 [c] (List.cons_ne_nil c []) (by simpa using hc)
  rw [singleSpacedFrom_ink false hc]
  exact hword

/-! ## What single spaces keep -/

theorem withoutBlanks_cons_of_ink {c : Char} (hc : isBlank c = false) (cs : List Char) :
    withoutBlanks (c :: cs) = c :: withoutBlanks cs := by
  simp [withoutBlanks, hc]

@[simp] theorem withoutBlanks_singleSpacedFrom (gap : Bool) (cs : List Char) :
    withoutBlanks (singleSpacedFrom gap cs) = withoutBlanks cs := by
  induction cs generalizing gap with
  | nil => rfl
  | cons c cs ih =>
    cases hc : isBlank c with
    | true =>
      rw [singleSpacedFrom_blank gap hc, ih]
      simp [withoutBlanks, hc]
    | false =>
      rw [singleSpacedFrom_ink gap hc, withoutBlanks_append, withoutBlanks_spaceIf, List.nil_append,
        withoutBlanks_cons_of_ink hc, withoutBlanks_cons_of_ink hc, ih]

/-- A text does not get longer, but for the space of a run that has begun before it. -/
theorem length_singleSpacedFrom_le (gap : Bool) (cs : List Char) :
    (singleSpacedFrom gap cs).length ≤ cs.length + (spaceIf gap).length := by
  induction cs generalizing gap with
  | nil => exact Nat.zero_le _
  | cons c cs ih =>
    cases hc : isBlank c with
    | true =>
      have hrest := ih true
      rw [singleSpacedFrom_blank gap hc, List.length_cons]
      simp only [spaceIf_true, List.length_singleton] at hrest
      omega
    | false =>
      have hrest := ih false
      simp only [spaceIf_false, List.length_nil] at hrest
      rw [singleSpacedFrom_ink gap hc, List.length_append, List.length_cons, List.length_cons]
      omega

/-- What a text becomes in front of characters that are not blank, whatever follows them. -/
theorem exists_singleSpacedFrom_append (gap : Bool) (cs : List Char) :
    ∃ spaced : List Char, withoutBlanks spaced = withoutBlanks cs ∧
      ∀ a rest, a ≠ [] → (∀ c ∈ a, isBlank c = false) →
        singleSpacedFrom gap (cs ++ (a ++ rest)) =
          spaced ++ (a ++ singleSpacedFrom false rest) := by
  induction cs generalizing gap with
  | nil =>
    refine ⟨spaceIf gap, withoutBlanks_spaceIf gap, fun a rest hne ha => ?_⟩
    obtain ⟨c, a, rfl⟩ := List.exists_cons_of_ne_nil hne
    have hrest := singleSpacedFrom_ink_append (fun d hd => ha d (List.mem_cons_of_mem c hd)) rest
    rw [List.nil_append, List.cons_append, singleSpacedFrom_ink gap (ha c List.mem_cons_self),
      hrest, List.cons_append]
  | cons d cs ih =>
    cases hd : isBlank d with
    | true =>
      obtain ⟨spaced, hink, hrest⟩ := ih true
      refine ⟨spaced, by simpa [withoutBlanks, hd] using hink, fun a rest hne ha => ?_⟩
      rw [List.cons_append, singleSpacedFrom_blank gap hd, hrest a rest hne ha]
    | false =>
      obtain ⟨spaced, hink, hrest⟩ := ih false
      refine ⟨spaceIf gap ++ d :: spaced, ?_, fun a rest hne ha => ?_⟩
      · rw [withoutBlanks_append, withoutBlanks_spaceIf, List.nil_append,
          withoutBlanks_cons_of_ink hd, withoutBlanks_cons_of_ink hd, hink]
      · rw [List.cons_append, singleSpacedFrom_ink gap hd, hrest a rest hne ha, List.append_assoc,
          List.cons_append]

/-- Blanks become blanks. -/
theorem exists_singleSpacedFrom_blank_append (gap : Bool) {w : List Char}
    (hw : ∀ c ∈ w, isBlank c = true) :
    ∃ spaced : List Char, (∀ c ∈ spaced, isBlank c = true) ∧
      ∀ a rest, a ≠ [] → (∀ c ∈ a, isBlank c = false) →
        singleSpacedFrom gap (w ++ (a ++ rest)) = spaced ++ (a ++ singleSpacedFrom false rest) := by
  obtain ⟨spaced, hink, hrest⟩ := exists_singleSpacedFrom_append gap w
  rw [withoutBlanks_of_blank hw] at hink
  refine ⟨spaced, ?_, hrest⟩
  simpa [withoutBlanks, List.filter_eq_nil_iff] using hink

end TypeMismatch.Text
