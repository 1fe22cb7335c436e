import TypeMismatch.Proofs.Text.Blank
import TypeMismatch.Proofs.Token.Spelling

/-!
# Which tokens a text holds

A text holds a list of tokens if their texts stand in it one after another, with any blanks before,
between and behind them, and with a blank at least between two words (`Holds`).  Nothing in this
says how a text is read or how long a word gets.  Still the well formed tokens that a text holds are
determined, and reading finds them (`scan_eq_iff`): a word that no blank follows is followed by a
delimiter or by nothing, so it cannot be longer or shorter than it is read.
-/

namespace TypeMismatch.Token

/-- The text holds the tokens in order: apart from them it has only blanks, and it has one behind a
word that another word follows. -/
inductive Holds : List Char → List Token → Prop
  | nil {gap : List Char} (blank : ∀ c ∈ gap, Text.isBlank c = true) : Holds gap []
  | cons {gap rest : List Char} {t : Token} {ts : List Token}
      (blank : ∀ c ∈ gap, Text.isBlank c = true) (rest_holds : Holds rest ts)
      (apart : t.kind = .word → (∃ u ∈ ts.head?, u.kind = .word) →
        ∃ b ∈ rest.head?, Text.isBlank b = true) :
      Holds (gap ++ (t.text.toList ++ rest)) (t :: ts)

/-! ## Whole tokens -/

/-- A word ends where no character of a word follows. -/
theorem scanFrom_of_head (run : List Char) {cs : List Char} (h : ∀ c ∈ cs.head?, ¬ InWord c) :
    scanFrom run cs = endWord run (scan cs) := by
  cases cs with
  | nil => rfl
  | cons c cs =>
    rcases blank_or_delimiter_or_inWord c with hc | ⟨kind, hc⟩ | hc
    · rw [scan, scanFrom_blank run hc, scanFrom_blank [] hc]
      rfl
    · rw [scan, scanFrom_delimiter run hc, scanFrom_delimiter [] hc]
      rfl
    · exact absurd hc (h c rfl)

theorem scanFrom_append (run : List Char) {w : List Char} (hw : ∀ c ∈ w, InWord c)
    (cs : List Char) : scanFrom run (w ++ cs) = scanFrom (w.reverse ++ run) cs := by
  induction w generalizing run with
  | nil => rfl
  | cons c w ih =>
    rw [List.cons_append, scanFrom_inWord run (hw c List.mem_cons_self),
      ih (c :: run) (fun d hd => hw d (List.mem_cons_of_mem c hd))]
    simp

theorem scan_blank_append {gap : List Char} (h : ∀ c ∈ gap, Text.isBlank c = true)
    (cs : List Char) : scan (gap ++ cs) = scan cs := by
  induction gap with
  | nil => rfl
  | cons c gap ih =>
    have hrest := ih (fun d hd => h d (List.mem_cons_of_mem c hd))
    rw [List.cons_append, scan, scanFrom_blank [] (h c List.mem_cons_self), hrest]
    rfl

theorem scan_delimiter {c : Char} {kind : TokenKind} (h : TokenKind.ofDelimiter? c = some kind)
    (cs : List Char) : scan (c :: cs) = ⟨kind, String.ofList [c]⟩ :: scan cs := by
  rw [scan, scanFrom_delimiter [] h]
  rfl

theorem scan_word_append {run cs : List Char} (hne : run ≠ []) (hrun : ∀ c ∈ run, InWord c)
    (hcs : ∀ c ∈ cs.head?, ¬ InWord c) : scan (run ++ cs) = word run :: scan cs := by
  rw [scan, scanFrom_append [] hrun, List.append_nil, scanFrom_of_head _ hcs,
    endWord_of_ne_nil (List.reverse_ne_nil_iff.2 hne), List.reverse_reverse]

/-! ## Reading finds what a text holds -/

theorem Holds.blank_cons {c : Char} {cs : List Char} {ts : List Token}
    (hc : Text.isBlank c = true) (h : Holds cs ts) : Holds (c :: cs) ts := by
  cases h with
  | nil hblank => exact .nil (List.forall_mem_cons.2 ⟨hc, hblank⟩)
  | cons hblank hrest hapart =>
    rw [← List.cons_append]
    exact .cons (List.forall_mem_cons.2 ⟨hc, hblank⟩) hrest hapart

/-- A token at the very start of a text. -/
theorem Holds.token {rest : List Char} {ts : List Token} (h : Holds rest ts) (t : Token)
    (apart : t.kind = .word → (∃ u ∈ ts.head?, u.kind = .word) →
      ∃ b ∈ rest.head?, Text.isBlank b = true) :
    Holds (t.text.toList ++ rest) (t :: ts) :=
  .cons (List.forall_mem_nil _) h apart

theorem holds_endWord {run cs : List Char} {ts : List Token} (h : Holds cs ts)
    (hcs : (∃ u ∈ ts.head?, u.kind = .word) → ∃ b ∈ cs.head?, Text.isBlank b = true) :
    Holds (run.reverse ++ cs) (endWord run ts) := by
  by_cases hrun : run = []
  · subst hrun
    exact h
  · rw [endWord_of_ne_nil hrun]
    have hword := h.token (word run.reverse) (fun _ => hcs)
    rwa [word, String.toList_ofList] at hword

theorem holds_scanFrom (run cs : List Char) : Holds (run.reverse ++ cs) (scanFrom run cs) := by
  induction cs generalizing run with
  | nil => exact holds_endWord (.nil (List.forall_mem_nil _)) (by simp)
  | cons c cs ih =>
    have hfresh : Holds cs (scan cs) := ih []
    rcases blank_or_delimiter_or_inWord c with hc | ⟨kind, hc⟩ | hc
    · rw [scanFrom_blank run hc]
      exact holds_endWord (hfresh.blank_cons hc) (fun _ => ⟨c, rfl, hc⟩)
    · rw [scanFrom_delimiter run hc]
      have hkind : kind ≠ .word := (ne_of_ofDelimiter? hc).1
      have hdelimiter : Holds (c :: cs) (⟨kind, String.ofList [c]⟩ :: scan cs) := by
        have htoken := hfresh.token ⟨kind, String.ofList [c]⟩ (fun hword => absurd hword hkind)
        rwa [String.toList_ofList] at htoken
      exact holds_endWord hdelimiter (by simp [hkind])
    · have hlonger := ih (c :: run)
      rw [List.reverse_cons, List.append_assoc] at hlonger
      rwa [scanFrom_inWord run hc]

theorem holds_scan (cs : List Char) : Holds cs (scan cs) := holds_scanFrom [] cs

/-- A text that holds no word at its start does not begin with a character of a word. -/
theorem Holds.not_inWord_of_mem_head? {cs : List Char} {ts : List Token} (h : Holds cs ts)
    (hts : ∀ t ∈ ts, WellFormed t) (hhead : ∀ u ∈ ts.head?, u.kind ≠ .word) :
    ∀ c ∈ cs.head?, ¬ InWord c := by
  intro d hd
  cases h with
  | nil hblank => exact not_inWord_of_isBlank (hblank d (List.mem_of_mem_head? hd))
  | @cons gap rest t ts hblank hrest hapart =>
    cases gap with
    | cons b gap =>
      obtain rfl : b = d := by simpa using hd
      exact not_inWord_of_isBlank (hblank b List.mem_cons_self)
    | nil =>
      have hkind := hhead t rfl
      cases hts t List.mem_cons_self with
      | @delimiter c kind hc =>
        obtain rfl : c = d := by simpa using hd
        exact not_inWord_of_ofDelimiter? hc
      | word _ _ => exact absurd rfl hkind

/-- Well formed tokens are read from any text that holds them. -/
theorem Holds.scan_eq {cs : List Char} {ts : List Token} (h : Holds cs ts)
    (hts : ∀ t ∈ ts, WellFormed t) : scan cs = ts := by
  induction h with
  | @nil gap hblank =>
    have hscan := scan_blank_append hblank []
    rwa [List.append_nil] at hscan
  | @cons gap rest t ts hblank hrest hapart ih =>
    have hrestFormed : ∀ u ∈ ts, WellFormed u := fun u hu => hts u (List.mem_cons_of_mem t hu)
    rw [scan_blank_append hblank]
    cases hts t List.mem_cons_self with
    | delimiter hc =>
      rw [String.toList_ofList, List.singleton_append, scan_delimiter hc, ih hrestFormed]
    | @word run hne hplain =>
      -- what follows a word is a blank, a delimiter or nothing
      have hend : ∀ c ∈ rest.head?, ¬ InWord c := by
        by_cases hnext : ∃ u ∈ ts.head?, u.kind = .word
        · obtain ⟨b, hb, hbblank⟩ := hapart rfl hnext
          intro c hc
          obtain rfl : b = c := Option.mem_unique hb hc
          exact not_inWord_of_isBlank hbblank
        · exact hrest.not_inWord_of_mem_head? hrestFormed
            (fun u hu hkind => hnext ⟨u, hu, hkind⟩)
      rw [Token.word, String.toList_ofList, scan_word_append hne hplain hend, ih hrestFormed]
      rfl

/-- **Reading finds the well formed tokens that the text holds**, and no other list of tokens is
one. -/
theorem scan_eq_iff {cs : List Char} {ts : List Token} :
    scan cs = ts ↔ Holds cs ts ∧ ∀ t ∈ ts, WellFormed t := by
  constructor
  · rintro rfl
    exact ⟨holds_scan cs, wellFormed_of_mem_scan cs⟩
  · rintro ⟨h, hts⟩
    exact h.scan_eq hts

/-! ## Reading up to a limit -/

/-- A text beyond the limit is read up to the limit and gets the mark of a cut. -/
theorem tokenizeWithin_natCast (limit : Nat) (text : String) :
    tokenizeWithin limit text =
      scan (text.toList.take limit) ++ if limit < text.toList.length then [cut] else [] := by
  have hexceeds : exceeds limit text.toList = decide (limit < text.toList.length) := by
    simp [exceeds]
  by_cases hlong : limit < text.toList.length
  · simp [tokenizeWithin, readable, hexceeds, hlong, Text.upTo]
  · have hread : text.toList.take limit = text.toList := List.take_of_length_le (by omega)
    simp only [tokenizeWithin, readable, hexceeds, hlong, hread, decide_false, Bool.false_eq_true,
      if_false]

/-- A text within the limit is read whole. -/
theorem tokenizeWithin_of_length_le {limit : Int} {text : String}
    (h : (text.toList.length : Int) ≤ limit) : tokenizeWithin limit text = scan text.toList := by
  have hexceeds : exceeds limit text.toList = false := by
    simpa [exceeds] using h
  simp [tokenizeWithin, readable, hexceeds]

end TypeMismatch.Token
