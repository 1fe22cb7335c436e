import TypeMismatch.Proofs.Token.Reading

/-!
# Reading loses nothing but blanks

The tokens of a text, put together, are the part of the text that is read, without its blanks; each
is a delimiter or a word; two words that follow each other stand apart in the text; and the mark of
a cut is the last token of a text beyond the limit and of no other (`tokenizeWithin_lossless`).

All of this but the mark is a property of every list of tokens that a text holds, so it is shown by
induction on `Holds` and not along the reading.
-/

namespace TypeMismatch.Token

/-- The characters of the tokens, put together. -/
def ink (ts : List Token) : List Char := ts.flatMap fun t => t.text.toList

/-- Between two tokens, with the tokens `before` in front of them and `after` behind them, the text
has nothing but blanks, and at least one. -/
def StandApart (cs : List Char) (before : List Token) (a b : Token) (after : List Token) : Prop :=
  ∃ u gap v, cs = u ++ (a.text.toList ++ (gap ++ (b.text.toList ++ v))) ∧
    (gap ≠ [] ∧ ∀ c ∈ gap, Text.isBlank c = true) ∧
    Text.withoutBlanks u = ink before ∧ Text.withoutBlanks v = ink after

theorem WellFormed.withoutBlanks_text {t : Token} (h : WellFormed t) :
    Text.withoutBlanks t.text.toList = t.text.toList :=
  Text.withoutBlanks_eq_self h.spelled.isBlank_eq_false

/-- A text without its blanks is the ink of the tokens that it holds. -/
theorem Holds.withoutBlanks_eq {cs : List Char} {ts : List Token} (h : Holds cs ts)
    (hts : ∀ t ∈ ts, WellFormed t) : Text.withoutBlanks cs = ink ts := by
  induction h with
  | nil hblank => exact Text.withoutBlanks_of_blank hblank
  | @cons gap rest t ts hblank _ _ ih =>
    have hrest := ih (fun u hu => hts u (List.mem_cons_of_mem t hu))
    rw [Text.withoutBlanks_append, Text.withoutBlanks_append, Text.withoutBlanks_of_blank hblank,
      (hts t List.mem_cons_self).withoutBlanks_text, hrest, List.nil_append, ink, ink,
      List.flatMap_cons]

/-- Two words at the start of what a text holds stand apart. -/
theorem Holds.standApart_nil {cs : List Char} {a b : Token} {after : List Token}
    (h : Holds cs (a :: b :: after)) (hformed : ∀ t ∈ a :: b :: after, WellFormed t)
    (ha : a.kind = .word) (hb : b.kind = .word) : StandApart cs [] a b after := by
  have hbformed : WellFormed b := hformed b (by simp)
  have hafter : ∀ t ∈ after, WellFormed t := fun t ht => hformed t (by simp [ht])
  cases h with
  | @cons start rest _ _ hstart hrest hapart =>
    obtain ⟨c, hc, hblank⟩ := hapart ha ⟨b, rfl, hb⟩
    cases hrest with
    | @cons gap v _ _ hgap hv _ =>
      refine ⟨start, gap, v, rfl, ⟨?_, hgap⟩, Text.withoutBlanks_of_blank hstart,
        hv.withoutBlanks_eq hafter⟩
      -- without a gap the blank would be a character of the second word
      rintro rfl
      obtain ⟨d, ds, htext⟩ := List.exists_cons_of_ne_nil hbformed.spelled.ne_nil
      obtain rfl : d = c := by simpa [htext] using hc
      have hd := hbformed.spelled.isBlank_eq_false d (by simp [htext])
      rw [hd] at hblank
      cases hblank

/-- Two words that follow each other in what a text holds stand apart. -/
theorem Holds.standApart {cs : List Char} {before : List Token} {a b : Token} {after : List Token}
    (h : Holds cs (before ++ a :: b :: after))
    (hformed : ∀ t ∈ before ++ a :: b :: after, WellFormed t)
    (ha : a.kind = .word) (hb : b.kind = .word) : StandApart cs before a b after := by
  induction before generalizing cs with
  | nil => exact h.standApart_nil hformed ha hb
  | cons t before ih =>
    rw [List.cons_append] at h
    cases h with
    | @cons start rest _ _ hstart hrest _ =>
      obtain ⟨u, gap, v, rfl, hgap, hu, hv⟩ :=
        ih hrest (fun d hd => hformed d (List.mem_cons_of_mem t hd))
      refine ⟨start ++ (t.text.toList ++ u), gap, v, by simp, hgap, ?_, hv⟩
      rw [Text.withoutBlanks_append, Text.withoutBlanks_append, Text.withoutBlanks_of_blank hstart,
        (hformed t (by simp)).withoutBlanks_text, hu, List.nil_append, ink, ink, List.flatMap_cons]

/-! ## Reading up to a limit -/

/-- Without the mark of a cut the tokens are those that were read. -/
theorem filter_not_isCut_tokenizeWithin (limit : Nat) (text : String) :
    ((tokenizeWithin limit text).filter fun t => !t.isCut) = scan (text.toList.take limit) := by
  have hscan : ((scan (text.toList.take limit)).filter fun t => !t.isCut) =
      scan (text.toList.take limit) := by
    rw [List.filter_eq_self]
    intro t ht
    rw [(wellFormed_of_mem_scan _ t ht).isCut_eq_false]
    rfl
  have hmark : ((if limit < text.toList.length then [cut] else []).filter fun t => !t.isCut) =
      [] := by
    split <;> rfl
  rw [tokenizeWithin_natCast, List.filter_append, hscan, hmark, List.append_nil]

/-- **Reading loses nothing but blanks.**  The tokens other than the mark of a cut are, put together,
the part of the text up to the limit without its blanks.  Each is a delimiter of its own kind or a
word, and two neighbouring words stand apart.  The mark is there exactly when the text is longer than
the limit, and then it stands once and last. -/
theorem tokenizeWithin_lossless (text : String) (limit : Nat) :
    let read := text.toList.take limit
    let ts := (tokenizeWithin limit text).filter fun t => !t.isCut
    ink ts = Text.withoutBlanks read ∧
      (∀ t ∈ ts, WellFormed t) ∧
      (∀ before a b after, ts = before ++ a :: b :: after → a.kind = .word → b.kind = .word →
        StandApart read before a b after) ∧
      tokenizeWithin limit text =
        ts ++ if limit < text.toList.length then [⟨.cut, "..."⟩] else [] := by
  intro read ts
  have hts : ts = scan read := filter_not_isCut_tokenizeWithin limit text
  have hformed : ∀ t ∈ ts, WellFormed t := by
    rw [hts]
    exact wellFormed_of_mem_scan read
  have hholds : Holds read ts := by
    rw [hts]
    exact holds_scan read
  refine ⟨(hholds.withoutBlanks_eq hformed).symm, hformed, ?_, ?_⟩
  · intro before a b after hsplit ha hb
    rw [hsplit] at hholds hformed
    exact hholds.standApart hformed ha hb
  · rw [hts]
    exact tokenizeWithin_natCast limit text

/-- A text that is cut inside of a word: `oldMa` is what is left of it, and it stands apart from the
word in front. -/
theorem tokenizeWithin_lossless_in_word :
    let text := "\x7bkeyof  oldMap>"
    let read := text.toList.take 13
    let ts := (tokenizeWithin 13 text).filter fun t => !t.isCut
    let before : List Token := [⟨.openBrace, "\x7b"⟩]
    let a : Token := ⟨.word, "keyof"⟩
    let b : Token := ⟨.word, "oldMa"⟩
    (b ∈ ts ∧ ts = before ++ a :: b :: [] ∧ a.kind = .word ∧ b.kind = .word) ∧
      WellFormed b ∧ StandApart read before a b [] ∧
      ink ts = "\x7bkeyofoldMa".toList ∧ tokenizeWithin 13 text = ts ++ [⟨.cut, "..."⟩] := by
  intro text read ts before a b
  obtain ⟨hink, hformed, hapart, hmark⟩ := tokenizeWithin_lossless text 13
  have hsplit : ts = before ++ a :: b :: [] := by decide +kernel
  have hb : b ∈ ts := by
    rw [hsplit]
    simp
  rw [if_pos (by decide +kernel)] at hmark
  exact ⟨⟨hb, hsplit, rfl, rfl⟩, hformed b hb, hapart before a b [] hsplit rfl rfl,
    hink.trans (by decide +kernel), hmark⟩

end TypeMismatch.Token
