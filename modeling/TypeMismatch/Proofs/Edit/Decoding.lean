import TypeMismatch.Edit.Markup
import TypeMismatch.Proofs.Edit.Replay
import TypeMismatch.Proofs.Text.Blank
import TypeMismatch.Proofs.Token.Spelling

/-!
# A marked line can be read back

The marks around removed and added tokens are made of delimiters, which are tokens themselves.
Still a line of a diff has one reading only: its pieces are its words, a piece of the form of a
marked text is one, and without their marks the pieces are the tokens of the expression
(`diff_decodes`).

Two facts carry this.  No token begins with the first mark and has more than one character, since a
delimiter is a token of its own (`removedText?_eq_none`, `addedText?_eq_none`).  And the script
shows each token of each side once, in order (`leftItems_script`, `rightItems_script`).
-/

namespace TypeMismatch

namespace Markers

/-- What is left of a piece when two marks are taken off its ends. -/
def inside (opening closing piece : String) : String :=
  String.ofList ((piece.toList.drop opening.toList.length).take
    (piece.toList.length - opening.toList.length - closing.toList.length))

/-- The text between two marks, if a piece has the form of a text between these marks. -/
def between? (opening closing piece : String) : Option String :=
  let text := inside opening closing piece
  if piece = opening ++ text ++ closing then some text else none

/-- The text of a piece of the form of a removed text. -/
def removedText? (m : Markers) (piece : String) : Option String :=
  between? m.removedOpen m.removedClose piece

/-- The text of a piece of the form of an added text. -/
def addedText? (m : Markers) (piece : String) : Option String :=
  between? m.addedOpen m.addedClose piece

theorem inside_append (opening closing text : String) :
    inside opening closing (opening ++ text ++ closing) = text := by
  rw [inside, String.toList_append, String.toList_append, List.append_assoc, List.drop_left,
    List.length_append, List.length_append, Nat.add_sub_cancel_left, Nat.add_sub_cancel,
    List.take_left, String.ofList_toList]

theorem between?_eq_some_iff {opening closing piece text : String} :
    between? opening closing piece = some text ↔ piece = opening ++ text ++ closing := by
  simp only [between?]
  constructor
  · intro h
    split at h
    · rename_i hform
      rw [← Option.some_inj.1 h]
      exact hform
    · cases h
  · rintro rfl
    rw [inside_append, if_pos rfl]

theorem removedText?_eq_some_iff {m : Markers} {piece text : String} :
    m.removedText? piece = some text ↔ piece = m.removed text :=
  between?_eq_some_iff

theorem addedText?_eq_some_iff {m : Markers} {piece text : String} :
    m.addedText? piece = some text ↔ piece = m.added text :=
  between?_eq_some_iff

/-- A token is not spelled like a marked text. -/
theorem between?_eq_none_of_spelled {opening closing : String} {c : Char} {cs : List Char}
    (hopening : opening.toList = c :: cs) (hclosing : closing.toList ≠ [])
    (hdelimiter : TokenKind.ofDelimiter? c ≠ none) {piece : String}
    (h : Token.Spelled piece.toList) : between? opening closing piece = none := by
  rw [Option.eq_none_iff_forall_ne_some]
  intro text htext
  have hpiece := congrArg String.toList (between?_eq_some_iff.1 htext)
  rw [String.toList_append, String.toList_append, hopening, List.append_assoc,
    List.cons_append] at hpiece
  have hmem : c ∈ piece.toList := by
    rw [hpiece]
    exact List.mem_cons_self
  rw [h.eq_singleton hmem hdelimiter, List.cons.injEq] at hpiece
  have hrest := (List.append_eq_nil_iff.1 hpiece.2.symm).2
  exact hclosing (List.append_eq_nil_iff.1 hrest).2

theorem removedText?_eq_none {piece : String} (h : Token.Spelled piece.toList) :
    standard.removedText? piece = none :=
  between?_eq_none_of_spelled (show standard.removedOpen.toList = '[' :: ['-'] by decide)
    (by decide) (by decide) h

theorem addedText?_eq_none {piece : String} (h : Token.Spelled piece.toList) :
    standard.addedText? piece = none :=
  between?_eq_none_of_spelled (show standard.addedOpen.toList = '\x7b' :: ['+'] by decide)
    (by decide) (by decide) h

end Markers

namespace Edit

/-! ## Lines of pieces -/

/-- The pieces of a line. -/
def pieces (line : String) : List String := (Text.words line.toList).map String.ofList

/-- The pieces of a line, those with marks without them. -/
def unmarked (text? : String → Option String) (line : String) : List String :=
  (pieces line).map fun p => (text? p).getD p

/-- The pieces of a line that have no marks. -/
def markless (text? : String → Option String) (line : String) : List String :=
  (pieces line).filter fun p => (text? p).isNone

/-- The line is its pieces with single blanks between them, and it has no other blanks. -/
def IsSpaced (line : String) : Prop :=
  spaced (pieces line) = line ∧ ∀ c ∈ line.toList, Text.isBlank c = true → c = ' '

/-- The text could be a piece: it is not empty and holds no blank. -/
def Solid (piece : String) : Prop :=
  piece.toList ≠ [] ∧ ∀ c ∈ piece.toList, Text.isBlank c = false

theorem pieces_spaced {ps : List String} (h : ∀ p ∈ ps, Solid p) : pieces (spaced ps) = ps := by
  have hne : [] ∉ ps.map String.toList := by
    intro hnil
    obtain ⟨p, hp, hempty⟩ := List.mem_map.1 hnil
    exact (h p hp).1 hempty
  have hblank : ∀ part ∈ ps.map String.toList, ∀ c ∈ part, Text.isBlank c = false := by
    intro part hpart
    obtain ⟨p, hp, rfl⟩ := List.mem_map.1 hpart
    exact (h p hp).2
  rw [pieces, spaced, String.toList_ofList, Text.words_joinWith hne hblank]
  simp

theorem isSpaced_spaced {ps : List String} (h : ∀ p ∈ ps, Solid p) : IsSpaced (spaced ps) := by
  refine ⟨by rw [pieces_spaced h], ?_⟩
  intro c hc hblank
  rw [spaced, String.toList_ofList] at hc
  rcases Text.mem_of_mem_joinWith hc with hc | ⟨part, hpart, hc⟩
  · exact List.mem_singleton.1 hc
  · obtain ⟨p, hp, rfl⟩ := List.mem_map.1 hpart
    rw [(h p hp).2 c hc] at hblank
    cases hblank

theorem solid_of_spelled {p : String} (h : Token.Spelled p.toList) : Solid p :=
  ⟨h.ne_nil, h.isBlank_eq_false⟩

theorem Solid.append {p q : String} (hp : Solid p) (hq : Solid q) : Solid (p ++ q) := by
  refine ⟨?_, ?_⟩
  · rw [String.toList_append]
    exact List.append_ne_nil_of_left_ne_nil hp.1 _
  · intro c hc
    rw [String.toList_append, List.mem_append] at hc
    rcases hc with hc | hc
    · exact hp.2 c hc
    · exact hq.2 c hc

theorem solid_of_all {p : String} (hne : p.toList ≠ [])
    (h : (p.toList.all fun c => !Text.isBlank c) = true) : Solid p := by
  refine ⟨hne, ?_⟩
  intro c hc
  have hblank := List.all_eq_true.1 h c hc
  rwa [Bool.not_eq_true'] at hblank

theorem solid_removed {p : String} (h : Solid p) : Solid (Markers.standard.removed p) := by
  have hopen : Solid Markers.standard.removedOpen := solid_of_all (by decide) (by decide)
  have hclose : Solid Markers.standard.removedClose := solid_of_all (by decide) (by decide)
  exact (hopen.append h).append hclose

theorem solid_added {p : String} (h : Solid p) : Solid (Markers.standard.added p) := by
  have hopen : Solid Markers.standard.addedOpen := solid_of_all (by decide) (by decide)
  have hclose : Solid Markers.standard.addedClose := solid_of_all (by decide) (by decide)
  exact (hopen.append h).append hclose

/-! ## What a side shows -/

/-- What a side shows of a step: a kept token as it is, and a token that it has alone between its
marks. -/
def shown (own : Edit Token → Bool) (mark : String → String) (e : Edit Token) : Option String :=
  if e.isKeep then some e.item.text else if own e then some (mark e.item.text) else none

theorem leftPiece_eq_shown (m : Markers) : leftPiece m = shown inLeft m.removed := by
  funext e
  cases e <;> rfl

theorem rightPiece_eq_shown (m : Markers) : rightPiece m = shown inRight m.added := by
  funext e
  cases e <;> rfl

section Side

variable {text? : String → Option String}
  (hplain : ∀ p : String, Token.Spelled p.toList → text? p = none)

include hplain

/-- A line without marks is read as the tokens that it was written from. -/
theorem reads_tokens {ts : List Token} (hts : ∀ t ∈ ts, Token.Spelled t.text.toList) :
    IsSpaced (spaced (ts.map Token.text)) ∧
      unmarked text? (spaced (ts.map Token.text)) = ts.map Token.text ∧
      ∀ p ∈ pieces (spaced (ts.map Token.text)), text? p = none := by
  have hsolid : ∀ p ∈ ts.map Token.text, Solid p := by
    intro p hp
    obtain ⟨t, ht, rfl⟩ := List.mem_map.1 hp
    exact solid_of_spelled (hts t ht)
  have hnone : ∀ p ∈ ts.map Token.text, text? p = none := by
    intro p hp
    obtain ⟨t, ht, rfl⟩ := List.mem_map.1 hp
    exact hplain t.text (hts t ht)
  rw [unmarked, pieces_spaced hsolid]
  refine ⟨isSpaced_spaced hsolid, ?_, hnone⟩
  rw [List.map_congr_left (fun p hp => by rw [hnone p hp, Option.getD_none]), List.map_id']

variable {own : Edit Token → Bool} {mark : String → String}
  (hown : ∀ e, e.isKeep = true → own e = true) (hsolid : ∀ p, Solid p → Solid (mark p))
  (hmark : ∀ p, text? (mark p) = some p)

omit hplain in
include hsolid in
theorem solid_of_mem_shown {s : List (Edit Token)}
    (hs : ∀ e ∈ s, Token.Spelled e.item.text.toList) :
    ∀ p ∈ s.filterMap (shown own mark), Solid p := by
  intro p hp
  obtain ⟨e, he, hshown⟩ := List.mem_filterMap.1 hp
  have hitem := solid_of_spelled (hs e he)
  unfold shown at hshown
  split at hshown
  · cases hshown
    exact hitem
  · split at hshown
    · cases hshown
      exact hsolid _ hitem
    · cases hshown

include hown hmark in
/-- Without their marks the pieces of a side are its tokens. -/
theorem map_shown {s : List (Edit Token)} (hs : ∀ e ∈ s, Token.Spelled e.item.text.toList) :
    (s.filterMap (shown own mark)).map (fun p => (text? p).getD p) =
      ((s.filter own).map item).map Token.text := by
  induction s with
  | nil => rfl
  | cons e s ih =>
    have hrest := ih (fun d hd => hs d (List.mem_cons_of_mem e hd))
    have htext := hplain _ (hs e List.mem_cons_self)
    by_cases hkeep : e.isKeep = true
    · simp [shown, hkeep, hown e hkeep, htext, hrest]
    · by_cases he : own e = true
      · simp [shown, hkeep, he, hmark, hrest]
      · simp [shown, hkeep, he, hrest]

include hmark in
/-- The pieces without marks are the kept tokens. -/
theorem filter_shown {s : List (Edit Token)} (hs : ∀ e ∈ s, Token.Spelled e.item.text.toList) :
    (s.filterMap (shown own mark)).filter (fun p => (text? p).isNone) =
      (s.filter isKeep).map fun e => e.item.text := by
  induction s with
  | nil => rfl
  | cons e s ih =>
    have hrest := ih (fun d hd => hs d (List.mem_cons_of_mem e hd))
    have htext := hplain _ (hs e List.mem_cons_self)
    by_cases hkeep : e.isKeep = true
    · simp [shown, hkeep, htext, hrest]
    · by_cases he : own e = true
      · simp [shown, hkeep, he, hmark, hrest]
      · simp [shown, hkeep, he, hrest]

include hown hsolid hmark in
/-- A line with marks is read as the tokens of its side of the script. -/
theorem reads_script {s : List (Edit Token)} (hs : ∀ e ∈ s, Token.Spelled e.item.text.toList) :
    IsSpaced (spaced (s.filterMap (shown own mark))) ∧
      unmarked text? (spaced (s.filterMap (shown own mark))) =
        ((s.filter own).map item).map Token.text ∧
      markless text? (spaced (s.filterMap (shown own mark))) =
        (s.filter isKeep).map fun e => e.item.text := by
  have hline : ∀ p ∈ s.filterMap (shown own mark), Solid p := solid_of_mem_shown hsolid hs
  rw [unmarked, markless, pieces_spaced hline]
  exact ⟨isSpaced_spaced hline, map_shown hplain hown hmark hs, filter_shown hplain hmark hs⟩

end Side

/-! ## Both sides -/

theorem spelled_of_mem_script {a b : String} :
    ∀ e ∈ script (Token.tokenize a) (Token.tokenize b), Token.Spelled e.item.text.toList := by
  intro e he
  rcases item_mem_of_mem he with h | h
  · rw [leftItems_script] at h
    exact Token.spelled_of_mem_tokenize _ _ h
  · rw [rightItems_script] at h
    exact Token.spelled_of_mem_tokenize _ _ h

/-- **A diff can be decoded.**  Both lines are pieces with single blanks between them.  Taking the
marks off the pieces that have the form of a marked text gives the tokens of each expression.  The
other pieces are the same on both sides, unless an expression is too long, and then all pieces are
others. -/
theorem diff_decodes (a b : String) :
    (IsSpaced (diff a b).1 ∧ IsSpaced (diff a b).2) ∧
      unmarked Markers.standard.removedText? (diff a b).1 = (Token.tokenize a).map Token.text ∧
      unmarked Markers.standard.addedText? (diff a b).2 = (Token.tokenize b).map Token.text ∧
      if (Token.tokenize a).length ≤ 500 ∧ (Token.tokenize b).length ≤ 500 then
        markless Markers.standard.removedText? (diff a b).1 =
          markless Markers.standard.addedText? (diff a b).2
      else
        (∀ p ∈ pieces (diff a b).1, Markers.standard.removedText? p = none) ∧
          ∀ p ∈ pieces (diff a b).2, Markers.standard.addedText? p = none := by
  have hplainLeft : ∀ p : String,
      Token.Spelled p.toList → Markers.standard.removedText? p = none :=
    fun _ hp => Markers.removedText?_eq_none hp
  have hplainRight : ∀ p : String,
      Token.Spelled p.toList → Markers.standard.addedText? p = none :=
    fun _ hp => Markers.addedText?_eq_none hp
  cases halign : align maxItems (Token.tokenize a) (Token.tokenize b) with
  | none =>
    have hlong := align_eq_none_iff.1 halign
    have hdiff : diff a b = (spaced ((Token.tokenize a).map Token.text),
        spaced ((Token.tokenize b).map Token.text)) := by
      simp only [diff, diffWithin, halign]
    obtain ⟨hspacedLeft, hleft, hnoneLeft⟩ :=
      reads_tokens hplainLeft (Token.spelled_of_mem_tokenize a)
    obtain ⟨hspacedRight, hright, hnoneRight⟩ :=
      reads_tokens hplainRight (Token.spelled_of_mem_tokenize b)
    have hnot : ¬ ((Token.tokenize a).length ≤ 500 ∧ (Token.tokenize b).length ≤ 500) := by
      unfold maxItems at hlong
      omega
    rw [hdiff, if_neg hnot]
    exact ⟨⟨hspacedLeft, hspacedRight⟩, hleft, hright, hnoneLeft, hnoneRight⟩
  | some s =>
    obtain ⟨ha, hb, rfl⟩ := align_eq_some_iff.1 halign
    have hdiff : diff a b =
        render Markers.standard (script (Token.tokenize a) (Token.tokenize b)) := by
      simp only [diff, diffWithin, halign]
    rw [render, leftPiece_eq_shown, rightPiece_eq_shown] at hdiff
    have hremoved : ∀ v, Markers.standard.removedText? (Markers.standard.removed v) = some v :=
      fun _ => Markers.removedText?_eq_some_iff.2 rfl
    have hadded : ∀ v, Markers.standard.addedText? (Markers.standard.added v) = some v :=
      fun _ => Markers.addedText?_eq_some_iff.2 rfl
    have hownLeft : ∀ e : Edit Token, e.isKeep = true → e.inLeft = true := by
      rintro (t | t | t) h <;> first | rfl | cases h
    have hownRight : ∀ e : Edit Token, e.isKeep = true → e.inRight = true := by
      rintro (t | t | t) h <;> first | rfl | cases h
    obtain ⟨hspacedLeft, hleft, hkeptLeft⟩ := reads_script hplainLeft hownLeft
      (fun _ => solid_removed) hremoved (spelled_of_mem_script (a := a) (b := b))
    obtain ⟨hspacedRight, hright, hkeptRight⟩ := reads_script hplainRight hownRight
      (fun _ => solid_added) hadded (spelled_of_mem_script (a := a) (b := b))
    rw [← leftItems, leftItems_script] at hleft
    rw [← rightItems, rightItems_script] at hright
    have hsmall : (Token.tokenize a).length ≤ 500 ∧ (Token.tokenize b).length ≤ 500 := by
      unfold maxItems at ha hb
      omega
    rw [hdiff, if_pos hsmall]
    exact ⟨⟨hspacedLeft, hspacedRight⟩, hleft, hright, hkeptLeft.trans hkeptRight.symm⟩

/-- Tokens that the marks are made of: brackets, dashes and plus signs. -/
theorem diff_decodes_brackets :
    diff "[ - a" "\x7b+\x7d a" = ("[-[-] [---] a", "\x7b+\x7b+\x7d \x7b+++\x7d \x7b+\x7d+\x7d a") ∧
      IsSpaced (diff "[ - a" "\x7b+\x7d a").1 ∧
      unmarked Markers.standard.removedText? (diff "[ - a" "\x7b+\x7d a").1 = ["[", "-", "a"] ∧
      unmarked Markers.standard.addedText? (diff "[ - a" "\x7b+\x7d a").2 =
        ["\x7b", "+", "\x7d", "a"] := by
  obtain ⟨⟨hspaced, -⟩, hleft, hright, -⟩ := diff_decodes "[ - a" "\x7b+\x7d a"
  refine ⟨by decide +kernel, hspaced, ?_, ?_⟩
  · rw [hleft]
    decide +kernel
  · rw [hright]
    decide +kernel

end Edit

end TypeMismatch
