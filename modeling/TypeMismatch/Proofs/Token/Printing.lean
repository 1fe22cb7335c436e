import TypeMismatch.Proofs.Edit.Decoding
import TypeMismatch.Proofs.Token.Reading

/-!
# Printed tokens are read back

Well formed tokens that are written one after another, with any blanks that keep words apart, are
read as they were.  One blank between all tokens is such a way to write them (`holds_spaced`), and a
line of a diff that has no marks is written in this way (`filterMap_shown_of_kept`).  So a line
without marks is read as the expression that it stands for (`tokenize_printed`).
-/

namespace TypeMismatch

namespace Token

theorem holds_joinWith (ts : List Token) :
    Holds (Text.joinWith [' '] (ts.map fun t => t.text.toList)) ts := by
  induction ts with
  | nil => exact .nil (List.forall_mem_nil _)
  | cons t ts ih =>
    cases ts with
    | nil =>
      have hnone : Holds [] [] := .nil (List.forall_mem_nil _)
      have hlast := hnone.token t (by simp)
      simpa [Text.joinWith] using hlast
    | cons u us =>
      have hblank : Text.isBlank ' ' = true := by decide
      have hnext := (ih.blank_cons hblank).token t (fun _ _ => ⟨' ', rfl, hblank⟩)
      simpa [Text.joinWith] using hnext

/-- A line of tokens with single blanks between them holds these tokens. -/
theorem holds_spaced (ts : List Token) : Holds (Edit.spaced (ts.map Token.text)).toList ts := by
  have hline := holds_joinWith ts
  rwa [Edit.spaced, String.toList_ofList, List.map_map]

theorem tokenizeWithin_of_holds {limit : Int} {text : String} {ts : List Token}
    (hts : ∀ t ∈ ts, WellFormed t) (h : Holds text.toList ts)
    (hlimit : (text.toList.length : Int) ≤ limit) : tokenizeWithin limit text = ts := by
  rw [tokenizeWithin_of_length_le hlimit, h.scan_eq hts]

/-- The tokens of a text within the limit are well formed. -/
theorem wellFormed_of_mem_tokenize {text : String} (h : text.toList.length ≤ maxInputLength) :
    ∀ t ∈ tokenize text, WellFormed t := by
  rw [tokenize, tokenizeWithin_of_length_le (Int.ofNat_le.2 h)]
  exact wellFormed_of_mem_scan text.toList

end Token

namespace Edit

theorem inLeft_of_isKeep {α : Type} {e : Edit α} (h : e.isKeep = true) : e.inLeft = true := by
  cases e <;> first | rfl | cases h

theorem inRight_of_isKeep {α : Type} {e : Edit α} (h : e.isKeep = true) : e.inRight = true := by
  cases e <;> first | rfl | cases h

/-- The side has nothing to mark: no script is made, or all of its tokens are kept. -/
def NoMarks (own : Edit Token → Bool) (limit : Int) (left right : List Token) : Prop :=
  ∀ s ∈ align limit left right, ∀ e ∈ s, own e = true → e.isKeep = true

/-- A side whose tokens are all kept shows them as they are. -/
theorem filterMap_shown_of_kept {own : Edit Token → Bool} (mark : String → String)
    (hown : ∀ e, e.isKeep = true → own e = true) {s : List (Edit Token)}
    (hs : ∀ e ∈ s, own e = true → e.isKeep = true) :
    s.filterMap (shown own mark) = ((s.filter own).map item).map Token.text := by
  induction s with
  | nil => rfl
  | cons e s ih =>
    have hrest := ih (fun d hd => hs d (List.mem_cons_of_mem e hd))
    cases hkeep : e.isKeep with
    | true => simp [shown, hkeep, hown e hkeep, hrest]
    | false =>
      have hnot : own e = false := by
        rw [Bool.eq_false_iff]
        intro he
        rw [hs e List.mem_cons_self he] at hkeep
        cases hkeep
      simp [shown, hkeep, hnot, hrest]

theorem diffWithin_left_of_noMarks {m : Markers} {limit : Int} {a b : String}
    (h : NoMarks inLeft limit (Token.tokenize a) (Token.tokenize b)) :
    (diffWithin m limit a b).1 = spaced ((Token.tokenize a).map Token.text) := by
  cases halign : align limit (Token.tokenize a) (Token.tokenize b) with
  | none => simp only [diffWithin, halign]
  | some s =>
    have hkept := filterMap_shown_of_kept m.removed (fun _ => inLeft_of_isKeep) (h s halign)
    obtain ⟨-, -, rfl⟩ := align_eq_some_iff.1 halign
    rw [← leftItems, leftItems_script, ← leftPiece_eq_shown] at hkept
    simp only [diffWithin, halign, render, hkept]

theorem diffWithin_right_of_noMarks {m : Markers} {limit : Int} {a b : String}
    (h : NoMarks inRight limit (Token.tokenize a) (Token.tokenize b)) :
    (diffWithin m limit a b).2 = spaced ((Token.tokenize b).map Token.text) := by
  cases halign : align limit (Token.tokenize a) (Token.tokenize b) with
  | none => simp only [diffWithin, halign]
  | some s =>
    have hkept := filterMap_shown_of_kept m.added (fun _ => inRight_of_isKeep) (h s halign)
    obtain ⟨-, -, rfl⟩ := align_eq_some_iff.1 halign
    rw [← rightItems, rightItems_script, ← rightPiece_eq_shown] at hkept
    simp only [diffWithin, halign, render, hkept]

end Edit

namespace Token

open Edit (spaced diffWithin NoMarks inLeft inRight)

/-- A line of the tokens of an expression that was not cut is read as these tokens. -/
theorem tokenize_spaced_tokenize {text : String} (h : text.toList.length ≤ maxInputLength)
    (hline : (spaced ((tokenize text).map Token.text)).toList.length ≤ maxInputLength) :
    tokenize (spaced ((tokenize text).map Token.text)) = tokenize text :=
  tokenizeWithin_of_holds (wellFormed_of_mem_tokenize h) (holds_spaced (tokenize text))
    (Int.ofNat_le.2 hline)

/-- **Printed tokens are read back.**  Well formed tokens are read from every text within the limit
that holds them, such as the line with single blanks between them.  A line of a diff without marks is
read as the tokens of its expression, if the expression was not cut and the line is within the
limit. -/
theorem tokenize_printed :
    (∀ (ts : List Token) (limit : Int), (∀ t ∈ ts, WellFormed t) →
      (∀ text : String, Holds text.toList ts → (text.toList.length : Int) ≤ limit →
        tokenizeWithin limit text = ts) ∧
      (((spaced (ts.map Token.text)).toList.length : Int) ≤ limit →
        tokenizeWithin limit (spaced (ts.map Token.text)) = ts)) ∧
    ∀ (m : Markers) (limit : Int) (a b : String),
      (a.toList.length ≤ maxInputLength →
        (spaced ((tokenize a).map Token.text)).toList.length ≤ maxInputLength →
        NoMarks inLeft limit (tokenize a) (tokenize b) →
        tokenize (diffWithin m limit a b).1 = tokenize a) ∧
      (b.toList.length ≤ maxInputLength →
        (spaced ((tokenize b).map Token.text)).toList.length ≤ maxInputLength →
        NoMarks inRight limit (tokenize a) (tokenize b) →
        tokenize (diffWithin m limit a b).2 = tokenize b) := by
  refine ⟨?_, ?_⟩
  · intro ts limit hts
    exact ⟨fun text h hlimit => tokenizeWithin_of_holds hts h hlimit,
      fun hlimit => tokenizeWithin_of_holds hts (holds_spaced ts) hlimit⟩
  · intro m limit a b
    refine ⟨?_, ?_⟩
    · intro ha hline h
      rw [Edit.diffWithin_left_of_noMarks h]
      exact tokenize_spaced_tokenize ha hline
    · intro hb hline h
      rw [Edit.diffWithin_right_of_noMarks h]
      exact tokenize_spaced_tokenize hb hline

/-- Blanks of several sorts, and none beside delimiters; a left line without marks beside a right
line with marks; a right line without marks since there are too many tokens. -/
theorem tokenize_printed_union :
    let text := " Map<A\t\n B>"
    let ts : List Token :=
      [⟨.word, "Map"⟩, ⟨.less, "<"⟩, ⟨.word, "A"⟩, ⟨.word, "B"⟩, ⟨.greater, ">"⟩]
    ((∀ t ∈ ts, WellFormed t) ∧ Holds text.toList ts ∧ tokenizeWithin 11 text = ts ∧
      tokenizeWithin 11 (spaced (ts.map Token.text)) = ts) ∧
    (diffWithin Markers.standard 5 "A|B" "A|B|C" = ("A | B", "A | B \x7b+|+\x7d \x7b+C+\x7d") ∧
      tokenize (diffWithin Markers.standard 5 "A|B" "A|B|C").1 = tokenize "A|B") ∧
    (diffWithin Markers.standard 4 "A|B" "A|B|C" = ("A | B", "A | B | C") ∧
      tokenize (diffWithin Markers.standard 4 "A|B" "A|B|C").2 = tokenize "A|B|C") := by
  intro text ts
  have hscan : scan text.toList = ts := by decide +kernel
  obtain ⟨hholds, hformed⟩ := scan_eq_iff.1 hscan
  obtain ⟨hany, hspaced⟩ := tokenize_printed.1 ts 11 hformed
  have hleft : NoMarks inLeft 5 (tokenize "A|B") (tokenize "A|B|C") := by
    intro s hs
    obtain ⟨-, -, rfl⟩ := Edit.align_eq_some_iff.1 hs
    decide +kernel
  have hright : NoMarks inRight 4 (tokenize "A|B") (tokenize "A|B|C") := by
    intro s hs
    rw [show Edit.align 4 (tokenize "A|B") (tokenize "A|B|C") = none by decide +kernel] at hs
    cases hs
  refine ⟨⟨hformed, hholds, hany text hholds (by decide +kernel), hspaced (by decide +kernel)⟩,
    ⟨by decide +kernel, ?_⟩, by decide +kernel, ?_⟩
  · exact (tokenize_printed.2 Markers.standard 5 "A|B" "A|B|C").1 (by decide +kernel)
      (by decide +kernel) hleft
  · exact (tokenize_printed.2 Markers.standard 4 "A|B" "A|B|C").2 (by decide +kernel)
      (by decide +kernel) hright

end Token

end TypeMismatch
