import TypeMismatch.Token.Lexer

/-!
# How tokens are spelled

A token that was read is a delimiter with its own character, or a word of characters that are
neither delimiters nor blanks (`wellFormed_of_mem_scan`).  The text of a token is therefore one
character alone or a run of characters none of which is a delimiter, and it holds no blank
(`spelled_of_mem_tokenize`); the mark of a cut is of the second sort.  So a delimiter never stands
beside another character in a token (`Spelled.eq_singleton`).

Each character is a blank, a delimiter or a character of a word, and reading has one equation for
each of these (`scanFrom_blank`, `scanFrom_delimiter`, `scanFrom_inWord`).
-/

namespace TypeMismatch.Token

/-- One character, or several of which none is a delimiter; and no blanks. -/
inductive Spelled : List Char → Prop
  | single {c : Char} (blank : Text.isBlank c = false) : Spelled [c]
  | word {run : List Char} (nonempty : run ≠ [])
      (plain : ∀ c ∈ run, TokenKind.ofDelimiter? c = none ∧ Text.isBlank c = false) : Spelled run

/-- A character that can stand in a word. -/
def InWord (c : Char) : Prop := TokenKind.ofDelimiter? c = none ∧ Text.isBlank c = false

/-- A delimiter of its own kind, or a word: not empty, without blanks and without delimiters. -/
inductive WellFormed : Token → Prop
  | delimiter {c : Char} {kind : TokenKind} (kind_eq : TokenKind.ofDelimiter? c = some kind) :
      WellFormed ⟨kind, String.ofList [c]⟩
  | word {run : List Char} (nonempty : run ≠ []) (plain : ∀ c ∈ run, InWord c) :
      WellFormed (word run)

theorem isBlank_of_ofDelimiter? {c : Char} {kind : TokenKind}
    (h : TokenKind.ofDelimiter? c = some kind) : Text.isBlank c = false := by
  unfold TokenKind.ofDelimiter? at h
  split at h <;> first | rfl | cases h

theorem ne_of_ofDelimiter? {c : Char} {kind : TokenKind}
    (h : TokenKind.ofDelimiter? c = some kind) : kind ≠ .word ∧ kind ≠ .cut := by
  unfold TokenKind.ofDelimiter? at h
  split at h <;> cases h <;> decide

namespace Spelled

theorem ne_nil {cs : List Char} (h : Spelled cs) : cs ≠ [] := by
  cases h with
  | single hc => exact List.cons_ne_nil _ _
  | word hne _ => exact hne

theorem isBlank_eq_false {cs : List Char} (h : Spelled cs) : ∀ c ∈ cs, Text.isBlank c = false := by
  intro c hc
  cases h with
  | single hd => rwa [List.mem_singleton.1 hc]
  | word _ hplain => exact (hplain c hc).2

/-- A delimiter stands alone. -/
theorem eq_singleton {c : Char} {cs : List Char} (h : Spelled cs) (hc : c ∈ cs)
    (hdelimiter : TokenKind.ofDelimiter? c ≠ none) : cs = [c] := by
  cases h with
  | single _ => rw [List.mem_singleton.1 hc]
  | word _ hplain => exact absurd (hplain c hc).1 hdelimiter

end Spelled

theorem WellFormed.spelled {t : Token} (h : WellFormed t) : Spelled t.text.toList := by
  cases h with
  | delimiter hkind =>
    rw [String.toList_ofList]
    exact .single (isBlank_of_ofDelimiter? hkind)
  | word hne hplain =>
    rw [Token.word, String.toList_ofList]
    exact .word hne hplain

theorem WellFormed.isCut_eq_false {t : Token} (h : WellFormed t) : t.isCut = false := by
  cases h with
  | delimiter hkind => exact beq_eq_false_iff_ne.2 (ne_of_ofDelimiter? hkind).2
  | word _ _ => rfl

/-! ## Steps of reading -/

theorem not_inWord_of_isBlank {c : Char} (h : Text.isBlank c = true) : ¬ InWord c := by
  intro hc
  rw [hc.2] at h
  cases h

theorem not_inWord_of_ofDelimiter? {c : Char} {kind : TokenKind}
    (h : TokenKind.ofDelimiter? c = some kind) : ¬ InWord c := by
  intro hc
  rw [hc.1] at h
  cases h

theorem ofDelimiter?_of_isBlank {c : Char} (h : Text.isBlank c = true) :
    TokenKind.ofDelimiter? c = none := by
  cases hkind : TokenKind.ofDelimiter? c with
  | none => rfl
  | some kind =>
    rw [isBlank_of_ofDelimiter? hkind] at h
    cases h

theorem endWord_of_ne_nil {run : List Char} (h : run ≠ []) (rest : List Token) :
    endWord run rest = word run.reverse :: rest := by
  rw [endWord, if_neg (by simpa using h)]

theorem scanFrom_blank (run : List Char) {c : Char} (h : Text.isBlank c = true) (cs : List Char) :
    scanFrom run (c :: cs) = endWord run (scan cs) := by
  rw [scanFrom, ofDelimiter?_of_isBlank h]
  simp only [h, if_true]
  rfl

theorem scanFrom_delimiter (run : List Char) {c : Char} {kind : TokenKind}
    (h : TokenKind.ofDelimiter? c = some kind) (cs : List Char) :
    scanFrom run (c :: cs) = endWord run (⟨kind, String.ofList [c]⟩ :: scan cs) := by
  rw [scanFrom, h]
  rfl

theorem scanFrom_inWord (run : List Char) {c : Char} (h : InWord c) (cs : List Char) :
    scanFrom run (c :: cs) = scanFrom (c :: run) cs := by
  rw [scanFrom, h.1]
  simp only [h.2, Bool.false_eq_true, if_false]

theorem blank_or_delimiter_or_inWord (c : Char) :
    Text.isBlank c = true ∨ (∃ kind, TokenKind.ofDelimiter? c = some kind) ∨ InWord c := by
  cases hkind : TokenKind.ofDelimiter? c with
  | some kind => exact .inr (.inl ⟨kind, rfl⟩)
  | none =>
    cases hblank : Text.isBlank c with
    | true => exact .inl rfl
    | false => exact .inr (.inr ⟨hkind, hblank⟩)

/-! ## What reading makes -/

theorem wellFormed_of_mem_endWord {run : List Char} {rest : List Token}
    (hrun : ∀ c ∈ run, InWord c) (hrest : ∀ t ∈ rest, WellFormed t) :
    ∀ t ∈ endWord run rest, WellFormed t := by
  by_cases hempty : run = []
  · subst hempty
    exact hrest
  · have hword : WellFormed (word run.reverse) :=
      .word (List.reverse_ne_nil_iff.2 hempty) (fun c hc => hrun c (List.mem_reverse.1 hc))
    rw [endWord_of_ne_nil hempty]
    exact List.forall_mem_cons.2 ⟨hword, hrest⟩

theorem wellFormed_of_mem_scanFrom (run cs : List Char) (hrun : ∀ c ∈ run, InWord c) :
    ∀ t ∈ scanFrom run cs, WellFormed t := by
  induction cs generalizing run with
  | nil => exact wellFormed_of_mem_endWord hrun (List.forall_mem_nil _)
  | cons c cs ih =>
    have hfresh : ∀ t ∈ scan cs, WellFormed t := ih [] (List.forall_mem_nil _)
    rcases blank_or_delimiter_or_inWord c with hc | ⟨kind, hc⟩ | hc
    · rw [scanFrom_blank run hc]
      exact wellFormed_of_mem_endWord hrun hfresh
    · rw [scanFrom_delimiter run hc]
      exact wellFormed_of_mem_endWord hrun (List.forall_mem_cons.2 ⟨.delimiter hc, hfresh⟩)
    · rw [scanFrom_inWord run hc]
      exact ih (c :: run) (List.forall_mem_cons.2 ⟨hc, hrun⟩)

/-- Reading makes well formed tokens only. -/
theorem wellFormed_of_mem_scan (cs : List Char) : ∀ t ∈ scan cs, WellFormed t :=
  wellFormed_of_mem_scanFrom [] cs (List.forall_mem_nil _)

/-- The delimiters among the tokens of a text are those that are read from one character. -/
theorem isDelimiter_iff_of_mem_tokenizeWithin {limit : Int} {text : String} {t : Token}
    (ht : t ∈ tokenizeWithin limit text) :
    t.isDelimiter = true ↔
      ∃ c kind, TokenKind.ofDelimiter? c = some kind ∧ t = ⟨kind, String.ofList [c]⟩ := by
  constructor
  · intro h
    rw [tokenizeWithin, List.mem_append] at ht
    rcases ht with ht | ht
    · cases wellFormed_of_mem_scan _ t ht with
      | delimiter hkind => exact ⟨_, _, hkind, rfl⟩
      | word => cases h
    · split at ht
      · cases List.mem_singleton.1 ht
        cases h
      · cases ht
  · rintro ⟨c, kind, hkind, rfl⟩
    obtain ⟨hword, hcut⟩ := ne_of_ofDelimiter? hkind
    simp [isDelimiter, hword, hcut]

/-- The texts of the tokens of any text. -/
theorem spelled_of_mem_tokenize (text : String) :
    ∀ t ∈ tokenize text, Spelled t.text.toList := by
  intro t ht
  rw [tokenize, tokenizeWithin, List.mem_append] at ht
  rcases ht with ht | ht
  · exact (wellFormed_of_mem_scan _ t ht).spelled
  · split at ht
    · rw [List.mem_singleton.1 ht]
      refine .word (by decide) ?_
      intro c hc
      obtain rfl : c = '.' := by simpa [cut, ellipsis] using hc
      exact ⟨rfl, by decide⟩
    · cases ht

end TypeMismatch.Token
