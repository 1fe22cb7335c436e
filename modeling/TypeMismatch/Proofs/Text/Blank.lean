import TypeMismatch.Text.Blank

/-!
# Trimming, splitting and joining

What the operations on lists of characters do to a text that is given as an append.  A run of blanks
beside a text vanishes when the text is trimmed, and a text splits at the first separator behind a
part that has none.
-/

namespace TypeMismatch.Text

/-- The text without any of its blanks. -/
def withoutBlanks (cs : List Char) : List Char := cs.filter fun c => !isBlank c

@[simp] theorem withoutBlanks_append (a b : List Char) :
    withoutBlanks (a ++ b) = withoutBlanks a ++ withoutBlanks b := by
  simp [withoutBlanks]

theorem withoutBlanks_of_blank {w : List Char} (hw : ∀ c ∈ w, isBlank c = true) :
    withoutBlanks w = [] := by
  simpa [withoutBlanks, List.filter_eq_nil_iff] using hw

theorem withoutBlanks_eq_self {cs : List Char} (h : ∀ c ∈ cs, isBlank c = false) :
    withoutBlanks cs = cs := by
  simpa [withoutBlanks] using h

theorem ne_of_isBlank {c d : Char} (hc : isBlank c = true) (hd : isBlank d = false) : c ≠ d := by
  rintro rfl
  rw [hc] at hd
  cases hd

/-- What holds of characters that are not blank only does not hold of blanks. -/
theorem eq_false_of_isBlank {p : Char → Bool} (hp : ∀ c, p c = true → isBlank c = false) {c : Char}
    (hc : isBlank c = true) : p c = false := by
  cases h : p c
  · rfl
  · rw [hp c h] at hc
    cases hc

/-! ## Codes of characters -/

theorem toNat_of_isDigit {c : Char} (h : c.isDigit = true) : 48 ≤ c.toNat ∧ c.toNat ≤ 57 := by
  rw [Char.isDigit, Bool.and_eq_true, decide_eq_true_eq, decide_eq_true_eq] at h
  exact h

theorem toNat_of_isAlpha {c : Char} (h : c.isAlpha = true) :
    (65 ≤ c.toNat ∧ c.toNat ≤ 90) ∨ (97 ≤ c.toNat ∧ c.toNat ≤ 122) := by
  have hcase : (c.isUpper || c.isLower) = true := h
  rcases Bool.or_eq_true_iff.1 hcase with hupper | hlower
  · exact .inl (decide_eq_true_iff.1 hupper)
  · obtain ⟨hfirst, hlast⟩ := Bool.and_eq_true_iff.1 hlower
    exact .inr ⟨of_decide_eq_true hfirst, of_decide_eq_true hlast⟩

/-- The visible characters of ASCII are not blank. -/
theorem isBlank_of_visible {c : Char} (hlow : 32 < c.toNat) (hhigh : c.toNat < 127) :
    isBlank c = false := by
  rw [Bool.eq_false_iff]
  intro hblank
  simp only [isBlank, Bool.or_eq_true, Bool.and_eq_true, decide_eq_true_eq, beq_iff_eq] at hblank
  omega

/-! ## Trimming -/

theorem trimLeft_blank_append {w : List Char} (hw : ∀ c ∈ w, isBlank c = true) (cs : List Char) :
    trimLeft (w ++ cs) = trimLeft cs := by
  rw [trimLeft, List.dropWhile_append_of_pos hw, trimLeft]

theorem trimLeft_cons {c : Char} (hc : isBlank c = false) (cs : List Char) :
    trimLeft (c :: cs) = c :: cs := by
  simp [trimLeft, hc]

theorem trimLeft_of_blank {w : List Char} (hw : ∀ c ∈ w, isBlank c = true) : trimLeft w = [] := by
  have h := trimLeft_blank_append hw []
  rwa [List.append_nil] at h

theorem dropRight_append_of_pos {p : Char → Bool} {w : List Char} (hw : ∀ c ∈ w, p c = true)
    (cs : List Char) : dropRight p (cs ++ w) = dropRight p cs := by
  induction cs with
  | nil =>
    induction w with
    | nil => rfl
    | cons c w ih =>
      have hrest := ih (fun d hd => hw d (List.mem_cons_of_mem c hd))
      simp only [List.nil_append, dropRight] at hrest ⊢
      rw [hrest, hw c List.mem_cons_self]
      rfl
  | cons c cs ih => rw [List.cons_append, dropRight, ih, dropRight]

theorem dropRight_concat_of_neg {p : Char → Bool} {c : Char} (hc : p c = false) (cs : List Char) :
    dropRight p (cs ++ [c]) = cs ++ [c] := by
  induction cs with
  | nil => simp [dropRight, hc]
  | cons d cs ih =>
    rw [List.cons_append, dropRight, ih]
    cases cs <;> rfl

theorem trimRight_append_blank {w : List Char} (hw : ∀ c ∈ w, isBlank c = true) (cs : List Char) :
    trimRight (cs ++ w) = trimRight cs :=
  dropRight_append_of_pos hw cs

theorem trimRight_concat {c : Char} (hc : isBlank c = false) (cs : List Char) :
    trimRight (cs ++ [c]) = cs ++ [c] :=
  dropRight_concat_of_neg hc cs

theorem dropRight_cons_of_neg {p : Char → Bool} {c : Char} (hc : p c = false) (cs : List Char) :
    dropRight p (c :: cs) = c :: dropRight p cs := by
  rw [dropRight]
  split
  · next h => simp [hc, h]
  · next h => rw [h]

theorem dropRight_append_cons {p : Char → Bool} {c : Char} (hc : p c = false) (a cs : List Char) :
    dropRight p (a ++ c :: cs) = a ++ dropRight p (c :: cs) := by
  induction a with
  | nil => rfl
  | cons d a ih =>
    rw [List.cons_append, dropRight, ih, dropRight_cons_of_neg hc]
    cases a <;> rfl

theorem prefix_dropRight (p : Char → Bool) (cs : List Char) : dropRight p cs <+: cs := by
  induction cs with
  | nil => exact List.prefix_refl []
  | cons c cs ih =>
    rw [dropRight]
    split
    · split
      · exact List.nil_prefix
      · exact List.prefix_append [c] cs
    · next h => exact List.cons_prefix_cons.2 ⟨rfl, h ▸ ih⟩

@[simp] theorem trimRight_nil : trimRight [] = [] := rfl

@[simp] theorem trim_nil : trim [] = [] := rfl

theorem trim_of_blank {w : List Char} (hw : ∀ c ∈ w, isBlank c = true) : trim w = [] := by
  rw [trim, trimLeft_of_blank hw, trimRight_nil]

theorem trim_blank_append {w : List Char} (hw : ∀ c ∈ w, isBlank c = true) (cs : List Char) :
    trim (w ++ cs) = trim cs := by
  rw [trim, trimLeft_blank_append hw, trim]

theorem dropRight_eq_nil_or_concat (p : Char → Bool) (cs : List Char) :
    dropRight p cs = [] ∨ ∃ init c, dropRight p cs = init ++ [c] ∧ p c = false := by
  induction cs with
  | nil => exact .inl rfl
  | cons c cs ih =>
    rw [dropRight]
    rcases ih with hrest | ⟨init, d, hrest, hd⟩
    · rw [hrest]
      dsimp only
      split
      · exact .inl rfl
      · next hc => exact .inr ⟨[], c, rfl, by simpa using hc⟩
    · refine .inr ⟨c :: init, d, ?_, hd⟩
      rw [hrest]
      cases init <;> rfl

theorem trim_cons_of_getLast? {c d : Char} {cs : List Char} (hc : isBlank c = false)
    (hlast : (c :: cs).getLast? = some d) (hd : isBlank d = false) : trim (c :: cs) = c :: cs := by
  obtain ⟨init, hinit⟩ := List.getLast?_eq_some_iff.1 hlast
  rw [trim, trimLeft_cons hc, hinit]
  exact trimRight_concat hd init

/-- A text that was trimmed ends with a character that is not blank. -/
theorem isBlank_of_getLast?_trim (cs : List Char) {c : Char} (h : (trim cs).getLast? = some c) :
    isBlank c = false := by
  rw [trim, trimRight] at h
  rcases dropRight_eq_nil_or_concat isBlank (trimLeft cs) with hnil | ⟨init, d, hconcat, hd⟩
  · rw [hnil] at h
    cases h
  · rw [hconcat, List.getLast?_concat, Option.some_inj] at h
    rwa [← h]

theorem mem_of_mem_trim {cs : List Char} {c : Char} (h : c ∈ trim cs) : c ∈ cs :=
  (List.dropWhile_suffix _).subset ((prefix_dropRight _ _).subset h)

theorem length_trim_le (cs : List Char) : (trim cs).length ≤ cs.length :=
  Nat.le_trans (prefix_dropRight _ _).length_le (List.dropWhile_suffix _).length_le

/-- The text begins and ends with a character that is not blank. -/
structure Inked (cs : List Char) : Prop where
  first : ∃ c rest, cs = c :: rest ∧ isBlank c = false
  last : ∃ init c, cs = init ++ [c] ∧ isBlank c = false

theorem trimLeft_eq_nil_or_cons (cs : List Char) :
    trimLeft cs = [] ∨ ∃ c rest, trimLeft cs = c :: rest ∧ isBlank c = false := by
  induction cs with
  | nil => exact .inl rfl
  | cons c cs ih =>
    cases hc : isBlank c with
    | false => exact .inr ⟨c, cs, trimLeft_cons hc cs, hc⟩
    | true =>
      have h := trimLeft_blank_append (w := [c]) (by simpa using hc) cs
      rw [List.singleton_append] at h
      rwa [h]

theorem inked_trim {cs : List Char} (h : trim cs ≠ []) : Inked (trim cs) := by
  constructor
  · rcases trimLeft_eq_nil_or_cons cs with hnil | ⟨c, rest, hcons, hc⟩
    · exact absurd (by rw [trim, hnil, trimRight_nil]) h
    · exact ⟨c, _, by rw [trim, hcons, trimRight, dropRight_cons_of_neg hc], hc⟩
  · exact (dropRight_eq_nil_or_concat isBlank (trimLeft cs)).resolve_left h

theorem Inked.trim_eq {cs : List Char} (h : Inked cs) : trim cs = cs := by
  obtain ⟨c, rest, rfl, hc⟩ := h.first
  obtain ⟨init, d, hlast, hd⟩ := h.last
  exact trim_cons_of_getLast? hc (by rw [hlast, List.getLast?_concat]) hd

theorem Inked.ne_nil {cs : List Char} (h : Inked cs) : cs ≠ [] := by
  obtain ⟨c, rest, rfl, -⟩ := h.first
  exact List.cons_ne_nil c rest

theorem Inked.trim_around {u cs v : List Char} (hu : ∀ c ∈ u, isBlank c = true) (h : Inked cs)
    (hv : ∀ c ∈ v, isBlank c = true) : trim (u ++ (cs ++ v)) = cs := by
  have htrim := h.trim_eq
  obtain ⟨c, rest, rfl, hc⟩ := h.first
  rw [trim, trimLeft_cons hc] at htrim
  rw [trim_blank_append hu, trim, List.cons_append, trimLeft_cons hc, ← List.cons_append,
    trimRight_append_blank hv, htrim]

theorem inked_of_forall {cs : List Char} (hne : cs ≠ []) (h : ∀ c ∈ cs, isBlank c = false) :
    Inked cs := by
  constructor
  · obtain ⟨c, rest, rfl⟩ := List.exists_cons_of_ne_nil hne
    exact ⟨c, rest, rfl, h c List.mem_cons_self⟩
  · exact ⟨cs.dropLast, cs.getLast hne, (List.dropLast_concat_getLast hne).symm,
      h _ (List.getLast_mem hne)⟩

/-- Blanks around a text without any vanish. -/
theorem trim_around {u cs v : List Char} (hu : ∀ c ∈ u, isBlank c = true)
    (hcs : ∀ c ∈ cs, isBlank c = false) (hv : ∀ c ∈ v, isBlank c = true) :
    trim (u ++ (cs ++ v)) = cs := by
  by_cases hne : cs = []
  · rw [hne, trim_blank_append hu]
    exact trim_of_blank hv
  · exact (inked_of_forall hne hcs).trim_around hu hv

/-! ## Splitting -/

theorem splitWhere_ne_nil (p : Char → Bool) (cs : List Char) : splitWhere p cs ≠ [] := by
  cases cs with
  | nil => simp [splitWhere]
  | cons c cs =>
    rw [splitWhere]
    split
    · simp
    · split <;> simp

/-- A part without separators goes in front of the first part of the rest. -/
theorem splitWhere_append {p : Char → Bool} {a cs part : List Char} {parts : List (List Char)}
    (ha : ∀ c ∈ a, p c = false) (h : splitWhere p cs = part :: parts) :
    splitWhere p (a ++ cs) = (a ++ part) :: parts := by
  induction a with
  | nil => exact h
  | cons c a ih =>
    have hrest := ih (fun d hd => ha d (List.mem_cons_of_mem c hd))
    simp [splitWhere, hrest, ha c List.mem_cons_self]

theorem splitWhere_of_neg {p : Char → Bool} {a : List Char} (ha : ∀ c ∈ a, p c = false) :
    splitWhere p a = [a] := by
  have h := splitWhere_append ha (show splitWhere p [] = [[]] from rfl)
  simpa using h

/-- A separator splits a text into two that are split apart. -/
theorem splitWhere_append_sep {p : Char → Bool} {sep : Char} (hsep : p sep = true)
    (a cs : List Char) : splitWhere p (a ++ sep :: cs) = splitWhere p a ++ splitWhere p cs := by
  induction a with
  | nil => simp [splitWhere, hsep]
  | cons c a ih =>
    rw [List.cons_append, splitWhere, ih, splitWhere]
    rcases hs : splitWhere p a with _ | ⟨part, parts⟩
    · exact absurd hs (splitWhere_ne_nil p a)
    · split <;> simp

theorem splitWhere_append_cons {p : Char → Bool} {a : List Char} (ha : ∀ c ∈ a, p c = false)
    {sep : Char} (hsep : p sep = true) (cs : List Char) :
    splitWhere p (a ++ sep :: cs) = a :: splitWhere p cs := by
  rw [splitWhere_append_sep hsep, splitWhere_of_neg ha, List.singleton_append]

/-- The parts of a text hold characters of the text, and none of its separators. -/
theorem mem_of_mem_splitWhere {p : Char → Bool} {cs part : List Char} {c : Char}
    (hpart : part ∈ splitWhere p cs) (hc : c ∈ part) : c ∈ cs ∧ p c = false := by
  induction cs generalizing part with
  | nil => simp_all [splitWhere]
  | cons d cs ih =>
    rw [splitWhere] at hpart
    split at hpart
    · rcases List.mem_cons.1 hpart with rfl | hpart
      · simp at hc
      · exact (ih hpart hc).imp_left (List.mem_cons_of_mem d)
    · next hd =>
      rcases hs : splitWhere p cs with _ | ⟨q, qs⟩
      · exact absurd hs (splitWhere_ne_nil p cs)
      · simp only [hs] at hpart ih
        rcases List.mem_cons.1 hpart with rfl | hpart
        · rcases List.mem_cons.1 hc with rfl | hc
          · exact ⟨List.mem_cons_self, by simpa using hd⟩
          · exact (ih List.mem_cons_self hc).imp_left (List.mem_cons_of_mem d)
        · exact (ih (List.mem_cons_of_mem q hpart) hc).imp_left (List.mem_cons_of_mem d)

theorem forall_neg_of_splitWhere_singleton {p : Char → Bool} {cs part : List Char}
    (h : splitWhere p cs = [part]) : ∀ c ∈ cs, p c = false := by
  induction cs generalizing part with
  | nil => simp
  | cons d cs ih =>
    rw [splitWhere] at h
    split at h
    · exact absurd (List.cons.inj h).2 (splitWhere_ne_nil p cs)
    · next hd =>
      rcases hs : splitWhere p cs with _ | ⟨q, qs⟩
      · exact absurd hs (splitWhere_ne_nil p cs)
      · simp only [hs, List.cons.injEq] at h
        have hrest := @ih q (by rw [hs, h.2])
        simpa using ⟨by simpa using hd, hrest⟩

theorem beq_eq_false_of_notMem {sep : Char} {a : List Char} (ha : sep ∉ a) :
    ∀ c ∈ a, (c == sep) = false := by
  intro c hc
  rw [beq_eq_false_iff_ne]
  rintro rfl
  exact ha hc

theorem splitAt_cons_self (sep : Char) (cs : List Char) :
    splitAt sep (sep :: cs) = [] :: splitAt sep cs := by
  simp [splitAt, splitWhere]

theorem splitAt_ne_nil (sep : Char) (cs : List Char) : splitAt sep cs ≠ [] :=
  splitWhere_ne_nil _ cs

theorem splitAt_append {sep : Char} {a cs part : List Char} {parts : List (List Char)}
    (ha : sep ∉ a) (h : splitAt sep cs = part :: parts) :
    splitAt sep (a ++ cs) = (a ++ part) :: parts :=
  splitWhere_append (beq_eq_false_of_notMem ha) h

theorem splitAt_of_notMem {sep : Char} {a : List Char} (ha : sep ∉ a) : splitAt sep a = [a] :=
  splitWhere_of_neg (beq_eq_false_of_notMem ha)

theorem splitAt_append_cons {sep : Char} {a : List Char} (ha : sep ∉ a) (cs : List Char) :
    splitAt sep (a ++ sep :: cs) = a :: splitAt sep cs :=
  splitWhere_append_cons (beq_eq_false_of_notMem ha) (beq_self_eq_true sep) cs

/-! ## Joining -/

/-- Joined parts are the parts with the separator in front of each, but for the first
separator. -/
theorem append_joinWith (sep : List Char) {parts : List (List Char)} (h : parts ≠ []) :
    sep ++ joinWith sep parts = parts.flatMap (sep ++ ·) := by
  induction parts with
  | nil => exact absurd rfl h
  | cons part parts ih =>
    cases parts with
    | nil => simp [joinWith]
    | cons next parts =>
      have hrest := ih (List.cons_ne_nil next parts)
      rw [joinWith, List.flatMap_cons, ← hrest]
      simp

/-- Parts that hold no separator are read back from their text. -/
theorem splitWhere_joinWith {p : Char → Bool} {sep : Char} (hsep : p sep = true)
    {parts : List (List Char)} (hne : parts ≠ []) (h : ∀ part ∈ parts, ∀ c ∈ part, p c = false) :
    splitWhere p (joinWith [sep] parts) = parts := by
  induction parts with
  | nil => exact absurd rfl hne
  | cons part parts ih =>
    have hpart := h part List.mem_cons_self
    cases parts with
    | nil => exact splitWhere_of_neg hpart
    | cons next parts =>
      have hrest := ih (List.cons_ne_nil _ _) (fun q hq => h q (List.mem_cons_of_mem part hq))
      rw [joinWith, List.append_assoc, List.singleton_append, splitWhere_append_cons hpart hsep,
        hrest]

theorem splitAt_joinWith {sep : Char} {parts : List (List Char)} (hne : parts ≠ [])
    (h : ∀ part ∈ parts, sep ∉ part) : splitAt sep (joinWith [sep] parts) = parts :=
  splitWhere_joinWith (p := (· == sep)) (beq_self_eq_true sep) hne fun part hpart =>
    beq_eq_false_of_notMem (h part hpart)

/-- Words with one blank between them are read as these words. -/
theorem words_joinWith {parts : List (List Char)} (hne : [] ∉ parts)
    (h : ∀ part ∈ parts, ∀ c ∈ part, isBlank c = false) : words (joinWith [' '] parts) = parts := by
  by_cases hparts : parts = []
  · rw [hparts]
    rfl
  · rw [words, splitWhere_joinWith rfl hparts h, List.filter_eq_self]
    intro part hpart
    cases part with
    | nil => exact absurd hpart hne
    | cons c part => rfl

theorem joinWith_append (sep : List Char) {as bs : List (List Char)} (ha : as ≠ []) (hb : bs ≠ []) :
    joinWith sep (as ++ bs) = joinWith sep as ++ (sep ++ joinWith sep bs) := by
  induction as with
  | nil => exact absurd rfl ha
  | cons a as ih =>
    cases as with
    | nil =>
      cases bs with
      | nil => exact absurd rfl hb
      | cons b bs => simp [joinWith]
    | cons a' as =>
      have hrest := ih (List.cons_ne_nil a' as)
      rw [List.cons_append] at hrest
      simp [joinWith, hrest]

theorem joinWith_append_cons (sep a part : List Char) (parts : List (List Char)) :
    joinWith sep ((a ++ part) :: parts) = a ++ joinWith sep (part :: parts) := by
  cases parts with
  | nil => rfl
  | cons next parts => simp [joinWith]

/-- Joined parts end as the last one does. -/
theorem exists_concat_joinWith (sep : List Char) {parts : List (List Char)} (hne : parts ≠ [])
    (h : ∀ part ∈ parts, ∃ init c, part = init ++ [c] ∧ isBlank c = false) :
    ∃ init c, joinWith sep parts = init ++ [c] ∧ isBlank c = false := by
  induction parts with
  | nil => exact absurd rfl hne
  | cons part parts ih =>
    cases parts with
    | nil => exact h part List.mem_cons_self
    | cons next parts =>
      obtain ⟨init, c, hlast, hc⟩ := ih (List.cons_ne_nil next parts) fun q hq =>
        h q (List.mem_cons_of_mem part hq)
      exact ⟨part ++ sep ++ init, c, by simp [joinWith, hlast], hc⟩

theorem mem_of_mem_joinWith {sep : List Char} {parts : List (List Char)} {c : Char}
    (h : c ∈ joinWith sep parts) : c ∈ sep ∨ ∃ part ∈ parts, c ∈ part := by
  induction parts with
  | nil => simp [joinWith] at h
  | cons part parts ih =>
    cases parts with
    | nil => exact .inr ⟨part, List.mem_cons_self, h⟩
    | cons next parts =>
      rw [joinWith, List.mem_append, List.mem_append] at h
      rcases h with (h | h) | h
      · exact .inr ⟨part, List.mem_cons_self, h⟩
      · exact .inl h
      · rcases ih h with h | ⟨q, hq, h⟩
        · exact .inl h
        · exact .inr ⟨q, List.mem_cons_of_mem part hq, h⟩

/-! ## Words -/

/-- A blank lies between two words. -/
theorem words_append_blank {c : Char} (hc : isBlank c = true) (a cs : List Char) :
    words (a ++ c :: cs) = words a ++ words cs := by
  rw [words, splitWhere_append_sep hc, List.filter_append]
  rfl

theorem mem_words {cs word : List Char} (h : word ∈ words cs) :
    word ≠ [] ∧ ∀ c ∈ word, c ∈ cs ∧ isBlank c = false := by
  obtain ⟨hword, hne⟩ := List.mem_filter.1 h
  exact ⟨by simpa using hne, fun c hc => mem_of_mem_splitWhere hword hc⟩

/-- A text whose words have one blank between them has no other blanks. -/
theorem eq_space_of_mem_joinWith_words {cs : List Char} {c : Char}
    (hc : c ∈ joinWith [' '] (words cs)) (hblank : isBlank c = true) : c = ' ' := by
  rcases mem_of_mem_joinWith hc with hc | ⟨word, hword, hc⟩
  · exact List.mem_singleton.1 hc
  · rw [((mem_words hword).2 c hc).2] at hblank
    cases hblank

end TypeMismatch.Text
