import TypeMismatch.Proofs.Token.Lossless

/-!
# Cutting a text changes its last token only

The tokens of the first part of a text are tokens of the whole text, but for the last one, which may
have been a longer word (`CutShort`).  Reading goes from left to right and looks at no character
before its turn, so the two readings agree until the first part ends.  There the shorter one has at
most a word in its hands, and the longer one goes on with that word (`cutShort_scanFrom`).
-/

namespace TypeMismatch.Token

/-- The first tokens are a beginning of the second ones, but that the last of them may be shorter
than the token in its place. -/
inductive CutShort : List Token → List Token → Prop
  | nil (whole : List Token) : CutShort [] whole
  | last {t u : Token} (kind_eq : t.kind = u.kind) (begins : t.text.toList <+: u.text.toList)
      (whole : List Token) : CutShort [t] (u :: whole)
  | cons (t : Token) {ts whole : List Token} (h : CutShort ts whole) :
      CutShort (t :: ts) (t :: whole)

namespace CutShort

theorem dropLast_prefix {ts whole : List Token} (h : CutShort ts whole) :
    ts.dropLast <+: whole := by
  induction h with
  | nil whole => exact List.nil_prefix
  | last _ _ _ => exact List.nil_prefix
  | @cons t ts whole h ih =>
    cases ts with
    | nil => exact List.nil_prefix
    | cons u us => exact (List.prefix_cons_inj t).2 ih

/-- The token in the place of the last one. -/
theorem getLast? {ts whole : List Token} (h : CutShort ts whole) :
    ∀ t ∈ ts.getLast?, ∃ u, whole[ts.length - 1]? = some u ∧
      t.kind = u.kind ∧ t.text.toList <+: u.text.toList := by
  intro d hd
  induction h with
  | nil _ => cases hd
  | @last t u hkind hprefix whole =>
    obtain rfl : t = d := by simpa using hd
    exact ⟨u, rfl, hkind, hprefix⟩
  | @cons t ts whole h ih =>
    cases ts with
    | nil =>
      obtain rfl : t = d := by simpa using hd
      exact ⟨t, rfl, rfl, List.prefix_rfl⟩
    | cons u us =>
      rw [List.getLast?_cons_cons] at hd
      obtain ⟨v, hv, hkind, hprefix⟩ := ih hd
      exact ⟨v, hv, hkind, hprefix⟩

theorem endWord {ts whole : List Token} (run : List Char) (h : CutShort ts whole) :
    CutShort (endWord run ts) (endWord run whole) := by
  by_cases hrun : run = []
  · subst hrun
    exact h
  · rw [endWord_of_ne_nil hrun, endWord_of_ne_nil hrun]
    exact .cons _ h

end CutShort

/-- A word that has begun is the beginning of the first token. -/
theorem scanFrom_eq_word_cons {run : List Char} (h : run ≠ []) (cs : List Char) :
    ∃ more rest, scanFrom run cs = word (run.reverse ++ more) :: rest := by
  induction cs generalizing run with
  | nil => exact ⟨[], [], by rw [scanFrom, endWord_of_ne_nil h, List.append_nil]⟩
  | cons c cs ih =>
    rcases blank_or_delimiter_or_inWord c with hc | ⟨kind, hc⟩ | hc
    · exact ⟨[], _, by rw [scanFrom_blank run hc, endWord_of_ne_nil h, List.append_nil]⟩
    · exact ⟨[], _, by rw [scanFrom_delimiter run hc, endWord_of_ne_nil h, List.append_nil]⟩
    · obtain ⟨more, rest, hlonger⟩ := ih (List.cons_ne_nil c run)
      refine ⟨c :: more, rest, ?_⟩
      rw [scanFrom_inWord run hc, hlonger, List.reverse_cons, List.append_assoc,
        List.singleton_append]

/-- Both readings are at the same place with the same word begun; one of them ends after `p`. -/
theorem cutShort_scanFrom (run p q : List Char) :
    CutShort (scanFrom run p) (scanFrom run (p ++ q)) := by
  induction p generalizing run with
  | nil =>
    by_cases hrun : run = []
    · subst hrun
      exact .nil _
    · obtain ⟨more, rest, hword⟩ := scanFrom_eq_word_cons hrun q
      rw [List.nil_append, hword, scanFrom, endWord_of_ne_nil hrun]
      have hkind : (word run.reverse).kind = (word (run.reverse ++ more)).kind := rfl
      refine .last hkind ?_ rest
      rw [word, word, String.toList_ofList, String.toList_ofList]
      exact List.prefix_append _ _
  | cons c p ih =>
    rw [List.cons_append]
    rcases blank_or_delimiter_or_inWord c with hc | ⟨kind, hc⟩ | hc
    · rw [scanFrom_blank run hc, scanFrom_blank run hc]
      exact (ih []).endWord run
    · rw [scanFrom_delimiter run hc, scanFrom_delimiter run hc]
      exact (CutShort.cons _ (ih [])).endWord run
    · rw [scanFrom_inWord run hc, scanFrom_inWord run hc]
      exact ih (c :: run)

/-- The tokens of the first characters of a text. -/
theorem cutShort_scan_take (n : Nat) (cs : List Char) : CutShort (scan (cs.take n)) (scan cs) := by
  have h := cutShort_scanFrom [] (cs.take n) (cs.drop n)
  rwa [List.take_append_drop] at h

/-- **A cut changes the last token only.**  A text beyond the limit has the mark of the cut behind its
tokens.  These are a beginning of the tokens of the whole text, but for the last one, which has the
kind of the token in its place and a beginning of its text that is not empty. -/
theorem tokenizeWithin_cuts_last_token (text : String) (limit : Nat)
    (hlong : limit < text.toList.length) (ample : Int)
    (hample : (text.toList.length : Int) ≤ ample) :
    let whole := tokenizeWithin ample text
    ∃ ts, tokenizeWithin limit text = ts ++ [cut] ∧
      ts.dropLast <+: whole ∧
      ∀ t ∈ ts.getLast?, ∃ u, whole[ts.length - 1]? = some u ∧
        t.kind = u.kind ∧ t.text.toList ≠ [] ∧ t.text.toList <+: u.text.toList := by
  intro whole
  have hcut : CutShort (scan (text.toList.take limit)) whole := by
    have hwhole : whole = scan text.toList := tokenizeWithin_of_length_le hample
    rw [hwhole]
    exact cutShort_scan_take limit text.toList
  refine ⟨scan (text.toList.take limit), ?_, hcut.dropLast_prefix, ?_⟩
  · rw [tokenizeWithin_natCast, if_pos hlong]
  · intro t ht
    obtain ⟨u, hu, hkind, hprefix⟩ := hcut.getLast? t ht
    have hformed := wellFormed_of_mem_scan _ t (List.mem_of_getLast? ht)
    exact ⟨u, hu, hkind, hformed.spelled.ne_nil, hprefix⟩

/-- A cut in a word: `old` is left of `oldMap`. -/
theorem tokenizeWithin_cuts_last_token_in_word :
    let text := "keyof  oldMap>"
    let ts : List Token := [⟨.word, "keyof"⟩, ⟨.word, "old"⟩]
    let whole : List Token := [⟨.word, "keyof"⟩, ⟨.word, "oldMap"⟩, ⟨.greater, ">"⟩]
    10 < text.toList.length ∧ (text.toList.length : Int) ≤ maxInputLength ∧
      tokenizeWithin maxInputLength text = whole ∧ tokenizeWithin 10 text = ts ++ [cut] ∧
      ts.dropLast <+: whole ∧
      ∀ t ∈ ts.getLast?, ∃ u, whole[1]? = some u ∧ t.kind = u.kind ∧ t.text.toList ≠ [] ∧
        t.text.toList <+: u.text.toList := by
  intro text ts whole
  have hlong : 10 < text.toList.length := by decide +kernel
  have hample : (text.toList.length : Int) ≤ maxInputLength := by decide +kernel
  have hwhole : tokenizeWithin maxInputLength text = whole := by decide +kernel
  obtain ⟨us, hus, hprefix, hlast⟩ :=
    tokenizeWithin_cuts_last_token text 10 hlong maxInputLength hample
  have hcut : tokenizeWithin 10 text = ts ++ [cut] := by decide +kernel
  obtain rfl : us = ts := List.append_cancel_right (hus.symm.trans hcut)
  rw [hwhole] at hprefix hlast
  exact ⟨hlong, hample, hwhole, hcut, hprefix, hlast⟩

end TypeMismatch.Token
