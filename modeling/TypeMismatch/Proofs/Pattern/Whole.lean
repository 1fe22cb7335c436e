import TypeMismatch.Proofs.Pattern.Passing

/-!
# Matches lie in the text

However a node matches, its ways lead from place to place of one text (`whole_of_mem_ends`): they
pass over characters, go back to an earlier place, or leave marks.  What a group captures is
therefore a part of the text that was searched (`captured?_infix_of_search`).
-/

namespace TypeMismatch.Pattern

/-- The ways stay in the text. -/
def Stays (ends : Place → List Place) : Prop := ∀ s t, t ∈ ends s → t.whole = s.whole

theorem Passes.stays {ends : Place → List Place} {L : List Char → Prop} (h : Passes ends L) :
    Stays ends := by
  intro s t ht
  obtain ⟨u, -, hu, rfl⟩ := (h s t).1 ht
  exact Place.whole_past hu

theorem whole_of_step? {p : Char → Bool} {s t : Place} (h : s.step? p = some t) :
    t.whole = s.whole :=
  (passes_step? p).stays s t (Option.mem_toList.2 h)

/-! ## Loops -/

theorem stays_lazyEnds (p : Char → Bool) (least : Nat) (most : Option Nat) (fuel count : Nat) :
    Stays (lazyEnds p least most fuel count) := by
  induction fuel generalizing count with
  | zero =>
    intro s t ht
    rw [lazyEnds] at ht
    split at ht
    · rw [List.mem_singleton.1 ht]
    · cases ht
  | succ fuel ih =>
    intro s t ht
    rw [lazyEnds, List.mem_append] at ht
    rcases ht with ht | ht
    · split at ht
      · rw [List.mem_singleton.1 ht]
      · cases ht
    · split at ht
      · split at ht
        · next next hnext =>
          rw [ih (count + 1) next t ht, whole_of_step? hnext]
        · cases ht
      · cases ht

theorem stays_testEnds (p : Char → Bool) (appetite : Appetite) (least : Nat)
    (most : Option Nat) : Stays (testEnds p appetite least most) := by
  intro s t ht
  cases appetite with
  | greedy => exact (passes_stops p least most).stays s t ht
  | lazy => exact stays_lazyEnds p least most _ _ s t ht
  | possessive => exact (passes_stops p least most).stays s t (List.mem_of_mem_take ht)

variable {body : Place → List Place}

theorem Stays.flatMap {rest : Place → List Place} (h : Stays body) (hrest : Stays rest) :
    Stays fun s => (body s).flatMap rest := by
  intro s t ht
  obtain ⟨m, hm, ht⟩ := List.mem_flatMap.1 ht
  rw [hrest m t ht, h s m hm]

theorem Stays.greedy (h : Stays body) (least : Nat) (most : Option Nat) (fuel count : Nat)
    (last : Option Nat) : Stays (greedyEnds body least most fuel count last) := by
  induction fuel generalizing count last with
  | zero => exact fun s t ht => nomatch ht
  | succ fuel ih =>
    intro s t ht
    rw [greedyEnds] at ht
    split at ht
    · exact h.flatMap (ih _ _) s t ht
    · split at ht
      · rcases List.mem_append.1 ht with ht | ht
        · exact h.flatMap (ih _ _) s t ht
        · rw [List.mem_singleton.1 ht]
      · rw [List.mem_singleton.1 ht]

theorem Stays.reluctant (h : Stays body) (least : Nat) (most : Option Nat) (fuel count : Nat)
    (last : Option Nat) : Stays (reluctantEnds body least most fuel count last) := by
  induction fuel generalizing count last with
  | zero => exact fun s t ht => nomatch ht
  | succ fuel ih =>
    intro s t ht
    rw [reluctantEnds] at ht
    split at ht
    · exact h.flatMap (ih _ _) s t ht
    · split at ht
      · rcases List.mem_cons.1 ht with rfl | ht
        · rfl
        · exact h.flatMap (ih _ _) s t ht
      · rw [List.mem_singleton.1 ht]

theorem Stays.whole_of_inOrder (h : Stays body) {s t : Place} (ht : inOrder body some s = some t) :
    t.whole = s.whole := by
  rw [inOrder_some] at ht
  exact h s t (List.mem_of_head? ht)

theorem Stays.whole_of_possessively (h : Stays body) (least : Nat) (most : Option Nat)
    (fuel count : Nat) (last : Option Nat) (s t : Place)
    (ht : possessively (inOrder body) least most fuel count last s = some t) :
    t.whole = s.whole := by
  induction fuel generalizing count last s with
  | zero => cases ht
  | succ fuel ih =>
    rw [possessively] at ht
    split at ht
    · split at ht
      · next next hnext => rw [ih _ _ next ht, h.whole_of_inOrder hnext]
      · cases ht
    · split at ht
      · split at ht
        · next next hnext => rw [ih _ _ next ht, h.whole_of_inOrder hnext]
        · rw [Option.some_inj.1 ht]
      · rw [Option.some_inj.1 ht]

theorem Stays.loop (h : Stays body) (appetite : Appetite) (least : Nat) (most : Option Nat) :
    Stays (loopEnds body appetite least most) := by
  intro s t ht
  cases appetite with
  | greedy => exact h.greedy least most _ _ _ s t ht
  | lazy => exact h.reluctant least most _ _ _ s t ht
  | possessive =>
    rw [loopEnds, Option.mem_toList] at ht
    exact h.whole_of_possessively least most _ _ _ s t ht

/-! ## Nodes -/

theorem whole_of_repeatText {f : Flags} {cs : List Char} {s t : Place}
    (h : repeatText f cs s = some t) : t.whole = s.whole := by
  induction cs generalizing s with
  | nil => rw [Option.some_inj.1 h]
  | cons c cs ih =>
    rw [repeatText] at h
    split at h
    · next next hnext => rw [ih h, whole_of_step? hnext]
    · cases h

/-- Wherever a look went, the match goes on from where it began. -/
theorem whole_of_look {negated : Bool} {found : Option Place} {s t : Place}
    (h : t ∈ match found with
      | some m => if negated then [] else [{ s with marks := m.marks }]
      | none => if negated then [s] else []) : t.whole = s.whole := by
  cases found with
  | some m =>
    cases negated with
    | true => cases h
    | false =>
      rw [List.mem_singleton.1 h]
      rfl
  | none =>
    cases negated with
    | true => rw [List.mem_singleton.1 h]
    | false => cases h

/-- **The ways of a node stay in the text.** -/
theorem whole_of_mem_ends (node : Node) (f : Flags) : Stays (node.ends f) := by
  induction node generalizing f with
  | empty => exact passes_nil.stays
  | literal code => exact (passes_step? _).stays
  | notLiteral code => exact (passes_step? _).stays
  | any => exact (passes_step? _).stays
  | set negated items => exact (passes_step? _).stays
  | anchor a =>
    intro s t ht
    simp only [Node.ends] at ht
    split at ht
    · rw [List.mem_singleton.1 ht]
    · cases ht
  | seq first second ihf ihs => exact (ihf f).flatMap (ihs f)
  | alt first second ihf ihs =>
    intro s t ht
    rcases List.mem_append.1 ht with ht | ht
    · exact ihf f s t ht
    · exact ihs f s t ht
  | group index body ih =>
    intro s t ht
    obtain ⟨m, hm, rfl⟩ := List.mem_map.1 ht
    exact ih f (s.mark (2 * index)) m hm
  | withFlags on off body ih => exact ih (f.within on off)
  | loop appetite least most body ih =>
    unfold Node.ends
    cases body.test? f with
    | some p => exact stays_testEnds p appetite least most
    | none => exact (ih f).loop appetite least most
  | ahead negated body ih =>
    intro s t ht
    exact whole_of_look ht
  | behind negated width body ih =>
    intro s t ht
    exact whole_of_look ht
  | atomic body ih =>
    intro s t ht
    exact ih f s t (List.mem_of_mem_take ht)
  | backref index =>
    intro s t ht
    simp only [Node.ends] at ht
    split at ht
    · exact whole_of_repeatText (Option.mem_toList.1 ht)
    · cases ht
  | conditional index yes no ihy ihn =>
    intro s t ht
    simp only [Node.ends] at ht
    split at ht
    · exact ihy f s t ht
    · exact ihn f s t ht

/-! ## Searching -/

/-- The set of first characters can only rule matches out. -/
theorem run_of_begin {root : Node} {f : Flags} {s t : Place} (h : root.begin f some s = some t) :
    root.run f some s = some t := by
  unfold Node.begin at h
  cases hfirst : root.firstSet? f with
  | none => rwa [hfirst] at h
  | some first =>
    simp only [hfirst] at h
    split at h
    · exact h
    · cases h

theorem whole_of_search {p : Pattern} {text : List Char} {t : Place}
    (h : p.search text = some t) : t.whole = text := by
  obtain ⟨u, v, rfl, hways⟩ := exists_of_searchFrom h
  have hrun := run_of_begin hways
  rw [run_eq_inOrder] at hrun
  rw [(whole_of_mem_ends p.root p.flags).whole_of_inOrder hrun]
  simp [Place.whole]

theorem captured?_infix {s : Place} {group : Nat} {cs : List Char}
    (h : s.captured? group = some cs) : cs <:+: s.whole := by
  rw [Place.captured?, Option.map_eq_some_iff] at h
  obtain ⟨span, -, rfl⟩ := h
  exact (List.take_prefix _ _).isInfix.trans (List.drop_suffix _ _).isInfix

/-- What is captured is a part of the text. -/
theorem captured?_infix_of_search {p : Pattern} {text cs : List Char} {t : Place} {group : Nat}
    (h : p.search text = some t) (hcs : t.captured? group = some cs) : cs <:+: text := by
  rw [← whole_of_search h]
  exact captured?_infix hcs

end TypeMismatch.Pattern
