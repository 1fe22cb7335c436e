import Mathlib.Data.List.Forall2
import TypeMismatch.Proofs.Token.Printing
import TypeMismatch.Terminal.Palette

/-!
# Coloring a finished line

Colors are put into a line after it was written, by a search for its marks.  A mark is a pair of
characters, one of them a delimiter, and a delimiter is a token of its own.  So no token holds such
a pair (`unpaired_of_spelled`), and the blanks between the pieces keep pairs from being made of two
pieces (`paintPairs_spaced`).  The first closing mark behind an opening one is its own, whatever the
token between them is (`throughMark?_append`).  The search finds the marked tokens and nothing else,
and the result is the line that is written with the color codes around the marks
(`paintDiff_diff`).

Both sorts of marks are searched for in each line, one after the other.  The marks of the other side
are not in a line, and neither the codes nor the line's own marks bring them in
(`unpaired_between`).
-/

namespace TypeMismatch.Terminal

open Edit (shown inLeft inRight)

/-! ## Searching for marks -/

theorem afterStart?_eq_some_iff {mark cs rest : List Char} :
    afterStart? mark cs = some rest ↔ cs = mark ++ rest := by
  induction mark generalizing cs with
  | nil => simp [afterStart?]
  | cons d mark ih =>
    cases cs with
    | nil => simp [afterStart?]
    | cons c cs =>
      rw [afterStart?]
      by_cases hd : d = c
      · simp [hd, ih]
      · simp [hd, Ne.symm hd]

theorem append_of_throughMark? {mark cs part rest : List Char}
    (h : throughMark? mark cs = some (part, rest)) : part ++ rest = cs := by
  induction cs generalizing part with
  | nil =>
    rw [throughMark?] at h
    split at h
    · cases h
      rfl
    · cases h
  | cons c cs ih =>
    rw [throughMark?] at h
    split at h
    · next hstart =>
      cases h
      exact (afterStart?_eq_some_iff.1 hstart).symm
    · split at h
      · cases h
      · obtain ⟨⟨q, r⟩, hq, heq⟩ := Option.map_eq_some_iff.1 h
        cases heq
        rw [List.cons_append, ih hq]

theorem append_of_marked? {openMark closeMark cs part rest : List Char}
    (h : marked? openMark closeMark cs = some (part, rest)) :
    ∃ inner, part = openMark ++ inner ∧ part ++ rest = cs := by
  obtain ⟨inner, hstart, h⟩ := Option.bind_eq_some_iff.1 h
  obtain ⟨⟨q, r⟩, hq, heq⟩ := Option.bind_eq_some_iff.1 h
  cases heq
  refine ⟨q, rfl, ?_⟩
  rw [List.append_assoc, append_of_throughMark? hq, afterStart?_eq_some_iff.1 hstart]

/-- Once the rounds are enough for all characters, it does not matter how many there are. -/
theorem paintMarked_eq_of_length_le {openMark : List Char} (hopen : openMark ≠ [])
    (closeMark before after : List Char) {m n : Nat} {cs : List Char} (hm : cs.length ≤ m)
    (hn : cs.length ≤ n) :
    paintMarked openMark closeMark before after m cs =
      paintMarked openMark closeMark before after n cs := by
  induction m generalizing n cs with
  | zero =>
    rw [List.eq_nil_of_length_eq_zero (Nat.le_zero.1 hm)]
    cases n <;> rfl
  | succ m ih =>
    cases cs with
    | nil => cases n <;> rfl
    | cons c cs =>
      obtain ⟨n, rfl⟩ : ∃ k, n = k + 1 := Nat.exists_eq_succ_of_ne_zero (by simp at hn; omega)
      rw [paintMarked, paintMarked]
      split
      · next part rest hmarked =>
        obtain ⟨inner, rfl, htext⟩ := append_of_marked? hmarked
        have hlength := congrArg List.length htext
        have hpos := List.length_pos_iff.2 hopen
        simp only [List.length_append, List.length_cons] at hlength hm hn
        rw [ih (n := n) (by omega) (by omega)]
      · rw [ih (n := n) (Nat.le_of_succ_le_succ hm) (Nat.le_of_succ_le_succ hn)]

/-! ## Pairs of characters -/

/-- The first of two characters never has the second right behind it. -/
def Unpaired (x y : Char) (cs : List Char) : Prop := ¬ [x, y] <:+: cs

theorem unpaired_cons_iff {x y c : Char} {cs : List Char} :
    Unpaired x y (c :: cs) ↔ ¬ (c = x ∧ cs.head? = some y) ∧ Unpaired x y cs := by
  have hprefix : [x, y] <+: c :: cs ↔ c = x ∧ cs.head? = some y := by
    cases cs <;> simp [eq_comm]
  rw [Unpaired, List.infix_cons_iff, hprefix, not_or]
  rfl

theorem unpaired_of_not_mem {x y : Char} {cs : List Char} (h : x ∉ cs) : Unpaired x y cs :=
  fun hpair => h (hpair.subset List.mem_cons_self)

theorem Unpaired.append {x y : Char} {cs ds : List Char} (hcs : Unpaired x y cs)
    (hds : Unpaired x y ds) (h : x ∉ cs ∨ ds.head? ≠ some y) : Unpaired x y (cs ++ ds) := by
  induction cs with
  | nil => exact hds
  | cons c cs ih =>
    obtain ⟨hfirst, hcs⟩ := unpaired_cons_iff.1 hcs
    refine unpaired_cons_iff.2 ⟨?_, ih hcs (h.imp_left fun hx hc => hx (List.mem_cons_of_mem c hc))⟩
    rintro ⟨rfl, hnext⟩
    rcases h with hx | hy
    · exact hx List.mem_cons_self
    · cases cs with
      | nil => exact hy hnext
      | cons d cs => exact hfirst ⟨rfl, hnext⟩

/-- A text between two others without the first character, the second of which does not begin with
the second character. -/
theorem unpaired_between {x y : Char} {a t b : List Char} (ha : x ∉ a) (ht : Unpaired x y t)
    (hb : x ∉ b) (hy : b.head? ≠ some y) : Unpaired x y (a ++ t ++ b) := by
  have hfront := (unpaired_of_not_mem ha).append ht (.inl ha)
  exact hfront.append (unpaired_of_not_mem hb) (.inr hy)

/-- A token does not hold a delimiter beside another character. -/
theorem unpaired_of_spelled {x y : Char} {cs : List Char} (h : Token.Spelled cs)
    (hdelimiter : TokenKind.ofDelimiter? x ≠ none ∨ TokenKind.ofDelimiter? y ≠ none) :
    Unpaired x y cs := by
  intro hpair
  have hlength := hpair.length_le
  rcases hdelimiter with hx | hy
  · rw [h.eq_singleton (hpair.subset (by simp)) hx] at hlength
    exact absurd hlength (by simp)
  · rw [h.eq_singleton (hpair.subset (by simp)) hy] at hlength
    exact absurd hlength (by simp)

section Pairs

variable (o s c : Char) (before after : List Char)

/-- Puts all texts between a mark `o s` and a mark `s c` between two codes. -/
def paintPairs (cs : List Char) : List Char :=
  paintMarked [o, s] [s, c] before after cs.length cs

variable {o s c before after}

theorem marked?_eq_none {x : Char} {cs : List Char} (h : ¬ (x = o ∧ cs.head? = some s)) :
    marked? [o, s] [s, c] (x :: cs) = none := by
  have hstart : afterStart? [o, s] (x :: cs) = none := by
    rw [Option.eq_none_iff_forall_ne_some]
    intro rest hrest
    obtain ⟨rfl, rfl⟩ := List.cons.inj (afterStart?_eq_some_iff.1 hrest)
    exact h ⟨rfl, rfl⟩
  rw [marked?, hstart]
  rfl

theorem paintPairs_cons {x : Char} {cs : List Char} (h : ¬ (x = o ∧ cs.head? = some s)) :
    paintPairs o s c before after (x :: cs) = x :: paintPairs o s c before after cs := by
  rw [paintPairs, List.length_cons, paintMarked, marked?_eq_none h]
  rfl

/-- The first closing mark is the one behind a text that has none. -/
theorem throughMark?_append {t : List Char} (hline : '\n' ∉ t) (ht : Unpaired s c t) (hne : s ≠ c)
    (rest : List Char) :
    throughMark? [s, c] (t ++ s :: c :: rest) = some (t ++ [s, c], rest) := by
  induction t with
  | nil =>
    have hstart : afterStart? [s, c] (s :: c :: rest) = some rest := afterStart?_eq_some_iff.2 rfl
    rw [List.nil_append, throughMark?, hstart]
    rfl
  | cons x t ih =>
    obtain ⟨hfirst, ht⟩ := unpaired_cons_iff.1 ht
    have hrest := ih (fun h => hline (List.mem_cons_of_mem x h)) ht
    have hx : x ≠ '\n' := fun h => hline (h ▸ List.mem_cons_self)
    have hstart : afterStart? [s, c] (x :: (t ++ s :: c :: rest)) = none := by
      rw [Option.eq_none_iff_forall_ne_some]
      intro other h
      obtain ⟨rfl, htail⟩ := List.cons.inj (afterStart?_eq_some_iff.1 h)
      cases t with
      | nil =>
        -- The mark would begin one character early, with its two characters being one.
        exact hne (List.cons.inj htail).1
      | cons y t => exact hfirst ⟨rfl, congrArg some (List.cons.inj htail).1⟩
    rw [List.cons_append, throughMark?, hstart]
    simp [hx, hrest]

theorem paintPairs_marked {t : List Char} (hline : '\n' ∉ t) (ht : Unpaired s c t) (hne : s ≠ c)
    (rest : List Char) :
    paintPairs o s c before after ([o, s] ++ t ++ [s, c] ++ rest) =
      before ++ ([o, s] ++ t ++ [s, c]) ++ after ++ paintPairs o s c before after rest := by
  have htext : [o, s] ++ t ++ [s, c] ++ rest = o :: s :: (t ++ s :: c :: rest) := by simp
  have hstart : afterStart? [o, s] (o :: s :: (t ++ s :: c :: rest)) =
      some (t ++ s :: c :: rest) := afterStart?_eq_some_iff.2 rfl
  have hmarked : marked? [o, s] [s, c] (o :: s :: (t ++ s :: c :: rest)) =
      some ([o, s] ++ t ++ [s, c], rest) := by
    simp [marked?, hstart, throughMark?_append hline ht hne]
  have hrounds : rest.length ≤ (s :: (t ++ s :: c :: rest)).length := by
    simp only [List.length_cons, List.length_append]
    omega
  rw [htext, paintPairs, List.length_cons, paintMarked, hmarked, paintPairs]
  exact congrArg _ (paintMarked_eq_of_length_le (by simp) _ _ _ hrounds (Nat.le_refl _))

/-! ## Pieces of a line -/

variable (o s c before after) in
/-- Whatever follows the first text, the search makes the second one of it. -/
def Paints (p q : String) : Prop :=
  ∀ rest, rest.head? ≠ some s →
    paintPairs o s c before after (p.toList ++ rest) =
      q.toList ++ paintPairs o s c before after rest

/-- A text without an opening mark stays. -/
theorem paints_self {p : String} (h : Unpaired o s p.toList) : Paints o s c before after p p := by
  intro rest hrest
  generalize p.toList = cs at h
  induction cs with
  | nil => rfl
  | cons x cs ih =>
    obtain ⟨hfirst, hcs⟩ := unpaired_cons_iff.1 h
    have hnone : ¬ (x = o ∧ (cs ++ rest).head? = some s) := by
      cases cs with
      | nil => exact fun hx => hrest hx.2
      | cons y cs => exact hfirst
    rw [List.cons_append, paintPairs_cons hnone, ih hcs, List.cons_append]

/-- A token between marks gets the codes around its marks. -/
theorem paints_marked {opening closing t before after : String} (hopen : opening.toList = [o, s])
    (hclose : closing.toList = [s, c]) (ht : Token.Spelled t.toList)
    (hdelimiter : TokenKind.ofDelimiter? c ≠ none) (hne : s ≠ c) :
    Paints o s c before.toList after.toList (opening ++ t ++ closing)
      ((before ++ opening) ++ t ++ (closing ++ after)) := by
  intro rest _
  have hline : '\n' ∉ t.toList := fun h => absurd (ht.isBlank_eq_false _ h) (by decide)
  have htoken : Unpaired s c t.toList := unpaired_of_spelled ht (.inr hdelimiter)
  simpa [hopen, hclose] using paintPairs_marked hline htoken hne rest

theorem unpaired_marked {opening closing t : String} (hopen : o ∉ opening.toList)
    (ht : Token.Spelled t.toList)
    (hdelimiter : TokenKind.ofDelimiter? o ≠ none ∨ TokenKind.ofDelimiter? s ≠ none)
    (hclose : o ∉ closing.toList) (hs : closing.toList.head? ≠ some s) :
    Unpaired o s (opening ++ t ++ closing).toList := by
  rw [String.toList_append, String.toList_append]
  exact unpaired_between hopen (unpaired_of_spelled ht hdelimiter) hclose hs

/-- Pieces are painted one by one. -/
theorem paintPairs_spaced (ho : ' ' ≠ o) (hs : ' ' ≠ s) {ps qs : List String}
    (h : List.Forall₂ (Paints o s c before after) ps qs) :
    paintPairs o s c before after (Edit.spaced ps).toList = (Edit.spaced qs).toList := by
  rw [Edit.spaced, Edit.spaced, String.toList_ofList, String.toList_ofList]
  induction h with
  | nil => rfl
  | @cons p q ps qs hpaints h ih =>
    cases h with
    | nil =>
      have hlast := hpaints [] (by simp)
      rwa [List.append_nil, show paintPairs o s c before after [] = [] from rfl,
        List.append_nil] at hlast
    | @cons p' q' ps qs _ _ =>
      have hspace : ¬ (' ' = o ∧ (Text.joinWith [' '] ((p' :: ps).map String.toList)).head? =
          some s) := fun hspace => ho hspace.1
      have hrest := hpaints (' ' :: Text.joinWith [' '] ((p' :: ps).map String.toList))
        (fun hhead => hs (Option.some.inj hhead))
      rw [paintPairs_cons hspace, ih] at hrest
      simpa [Text.joinWith] using hrest

end Pairs

/-! ## Both sides of a diff -/

/-- What two marks make of a side agrees piece by piece, if it does for each token. -/
theorem forall₂_shown {R : String → String → Prop} {own : Edit Token → Bool}
    {mark mark' : String → String} {script : List (Edit Token)}
    (hkept : ∀ e ∈ script, R e.item.text e.item.text)
    (hmarked : ∀ e ∈ script, R (mark e.item.text) (mark' e.item.text)) :
    List.Forall₂ R (script.filterMap (shown own mark)) (script.filterMap (shown own mark')) := by
  induction script with
  | nil => exact .nil
  | cons e script ih =>
    have hrest := ih (fun d hd => hkept d (List.mem_cons_of_mem e hd))
      fun d hd => hmarked d (List.mem_cons_of_mem e hd)
    have hfirst := hkept e List.mem_cons_self
    have hmark := hmarked e List.mem_cons_self
    by_cases hkeep : e.isKeep = true
    · simpa [shown, hkeep] using List.Forall₂.cons hfirst hrest
    · by_cases hown : own e = true
      · simpa [shown, hkeep, hown] using List.Forall₂.cons hmark hrest
      · simpa [shown, hkeep, hown] using hrest

/-- The usual marks with the color codes of a palette around them. -/
def painted (p : Palette) : Markers where
  removedOpen := p.red ++ Markers.standard.removedOpen
  removedClose := Markers.standard.removedClose ++ p.reset
  addedOpen := p.green ++ Markers.standard.addedOpen
  addedClose := Markers.standard.addedClose ++ p.reset

/-- The search for removed texts makes the second text of the first one. -/
def PaintsRemoved (p : Palette) : String → String → Prop :=
  Paints '[' '-' ']' p.red.toList p.reset.toList

/-- The search for added texts makes the second text of the first one. -/
def PaintsAdded (p : Palette) : String → String → Prop :=
  Paints '\x7b' '+' '\x7d' p.green.toList p.reset.toList

section Sides

variable {p : Palette}

/-- Both searches go over the pieces of a line, one after the other. -/
theorem paintDiff_spaced (hcolors : p.hasColors = true) {ps qs rs : List String}
    (hremoved : List.Forall₂ (PaintsRemoved p) ps qs)
    (hadded : List.Forall₂ (PaintsAdded p) qs rs) :
    paintDiff p (Edit.spaced ps) = Edit.spaced rs := by
  have hfirst : paintBetween p p.red Markers.standard.removedOpen Markers.standard.removedClose
      (Edit.spaced ps).toList = (Edit.spaced qs).toList :=
    paintPairs_spaced (by decide) (by decide) hremoved
  have hsecond : paintBetween p p.green Markers.standard.addedOpen Markers.standard.addedClose
      (Edit.spaced qs).toList = (Edit.spaced rs).toList :=
    paintPairs_spaced (by decide) (by decide) hadded
  simp only [paintDiff, hcolors, if_true, hfirst, hsecond, String.ofList_toList]

theorem paintsRemoved_token {t : String} (h : Token.Spelled t.toList) : PaintsRemoved p t t :=
  paints_self (unpaired_of_spelled h (.inl (by decide)))

theorem paintsAdded_token {t : String} (h : Token.Spelled t.toList) : PaintsAdded p t t :=
  paints_self (unpaired_of_spelled h (.inl (by decide)))

theorem paintsRemoved_removed {t : String} (h : Token.Spelled t.toList) :
    PaintsRemoved p (Markers.standard.removed t) ((painted p).removed t) :=
  paints_marked rfl rfl h (by decide) (by decide)

theorem paintsAdded_added {t : String} (h : Token.Spelled t.toList) :
    PaintsAdded p (Markers.standard.added t) ((painted p).added t) :=
  paints_marked rfl rfl h (by decide) (by decide)

/-- Added texts are not removed ones. -/
theorem paintsRemoved_added {t : String} (h : Token.Spelled t.toList) :
    PaintsRemoved p (Markers.standard.added t) (Markers.standard.added t) := by
  have hopen : '[' ∉ Markers.standard.addedOpen.toList := by decide
  have hclose : '[' ∉ Markers.standard.addedClose.toList := by decide
  exact paints_self (unpaired_marked hopen h (.inl (by decide)) hclose (by decide))

/-- Removed texts with their codes are not added ones. -/
theorem paintsAdded_removed {t : String} (hred : '\x7b' ∉ p.red.toList)
    (hreset : '\x7b' ∉ p.reset.toList) (h : Token.Spelled t.toList) :
    PaintsAdded p ((painted p).removed t) ((painted p).removed t) := by
  have hopen : '\x7b' ∉ (painted p).removedOpen.toList := by
    simp [painted, Markers.standard, hred]
  have hclose : '\x7b' ∉ (painted p).removedClose.toList := by
    simp [painted, Markers.standard, hreset]
  have hhead : (painted p).removedClose.toList.head? ≠ some '+' := by
    simp [painted, Markers.standard]
  exact paints_self (unpaired_marked hopen h (.inl (by decide)) hclose hhead)

theorem paintDiff_tokens (hcolors : p.hasColors = true) {ts : List Token}
    (hts : ∀ t ∈ ts, Token.Spelled t.text.toList) :
    paintDiff p (Edit.spaced (ts.map Token.text)) = Edit.spaced (ts.map Token.text) := by
  have hline : ∀ q ∈ ts.map Token.text, Token.Spelled q.toList := List.forall_mem_map.2 hts
  have hremoved := List.forall₂_same.2 fun q hq => paintsRemoved_token (p := p) (hline q hq)
  have hadded := List.forall₂_same.2 fun q hq => paintsAdded_token (p := p) (hline q hq)
  exact paintDiff_spaced hcolors hremoved hadded

theorem paintDiff_left (hcolors : p.hasColors = true) (hred : '\x7b' ∉ p.red.toList)
    (hreset : '\x7b' ∉ p.reset.toList) {script : List (Edit Token)}
    (hs : ∀ e ∈ script, Token.Spelled e.item.text.toList) :
    paintDiff p (Edit.render Markers.standard script).1 = (Edit.render (painted p) script).1 := by
  simp only [Edit.render, Edit.leftPiece_eq_shown]
  have hremoved : List.Forall₂ (PaintsRemoved p)
      (script.filterMap (shown inLeft Markers.standard.removed))
      (script.filterMap (shown inLeft (painted p).removed)) :=
    forall₂_shown (fun e he => paintsRemoved_token (hs e he))
      (fun e he => paintsRemoved_removed (hs e he))
  exact paintDiff_spaced hcolors hremoved (forall₂_shown (fun e he => paintsAdded_token (hs e he))
    (fun e he => paintsAdded_removed hred hreset (hs e he)))

theorem paintDiff_right (hcolors : p.hasColors = true) {script : List (Edit Token)}
    (hs : ∀ e ∈ script, Token.Spelled e.item.text.toList) :
    paintDiff p (Edit.render Markers.standard script).2 = (Edit.render (painted p) script).2 := by
  simp only [Edit.render, Edit.rightPiece_eq_shown]
  have hremoved : List.Forall₂ (PaintsRemoved p)
      (script.filterMap (shown inRight Markers.standard.added))
      (script.filterMap (shown inRight Markers.standard.added)) :=
    forall₂_shown (fun e he => paintsRemoved_token (hs e he))
      (fun e he => paintsRemoved_added (hs e he))
  exact paintDiff_spaced hcolors hremoved (forall₂_shown (fun e he => paintsAdded_token (hs e he))
    (fun e he => paintsAdded_added (hs e he)))

end Sides

/-- **Colors are put where they belong.**  A line of a diff that is colored by a search for its
marks is the line that is written with the codes around the marks.  So all marked tokens are colored
and nothing else is. -/
theorem paintDiff_diff (limit : Int) (a b : String) :
    paintDiff Palette.colored (Edit.diffWithin Markers.standard limit a b).1 =
        (Edit.diffWithin (painted Palette.colored) limit a b).1 ∧
      paintDiff Palette.colored (Edit.diffWithin Markers.standard limit a b).2 =
        (Edit.diffWithin (painted Palette.colored) limit a b).2 := by
  have hcolors : Palette.colored.hasColors = true := by decide +kernel
  cases halign : Edit.align limit (Token.tokenize a) (Token.tokenize b) with
  | none =>
    simp only [Edit.diffWithin, halign]
    exact ⟨paintDiff_tokens hcolors (Token.spelled_of_mem_tokenize a),
      paintDiff_tokens hcolors (Token.spelled_of_mem_tokenize b)⟩
  | some script =>
    obtain ⟨-, -, rfl⟩ := Edit.align_eq_some_iff.1 halign
    simp only [Edit.diffWithin, halign]
    have hred : '\x7b' ∉ Palette.colored.red.toList := by decide +kernel
    have hreset : '\x7b' ∉ Palette.colored.reset.toList := by decide +kernel
    exact ⟨paintDiff_left hcolors hred hreset Edit.spelled_of_mem_script,
      paintDiff_right hcolors Edit.spelled_of_mem_script⟩

/-- Tokens that marks are made of, some of them kept and some marked. -/
example :
    let lines := Edit.diff "[ - \x7b" "- + \x7d"
    lines = ("[-[-] - [-\x7b-]", "- \x7b+++\x7d \x7b+\x7d+\x7d") ∧
      paintDiff Palette.colored lines.1 = "\x1b[91m[-[-]\x1b[0m - \x1b[91m[-\x7b-]\x1b[0m" ∧
      paintDiff Palette.colored lines.2 =
        "- \x1b[92m\x7b+++\x7d\x1b[0m \x1b[92m\x7b+\x7d+\x7d\x1b[0m" := by
  decide +kernel

end TypeMismatch.Terminal
