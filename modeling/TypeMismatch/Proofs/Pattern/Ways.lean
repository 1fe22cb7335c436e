import TypeMismatch.Pattern.Compiled

/-!
# Matching as a list of ways

The matcher hands each way of a node to a continuation and goes on with the next way when that
fails.  `Node.ends` lists the same ways without continuations: the places at which they end, in the
order in which they are tried.  The matcher is the search through this list
(`run_eq_inOrder`), so what a pattern matches can be read off the list, and which match is found
off its order (`exists_of_search`, `search_of_front`).
-/

namespace TypeMismatch.Pattern

/-- Tries the ways of a list, one after another. -/
def inOrder (ends : Place → List Place) : Ways := fun k s => (ends s).findSome? k

/-! ## The ways of loops -/

def lazyEnds (p : Char → Bool) (least : Nat) (most : Option Nat) :
    (fuel : Nat) → (count : Nat) → Place → List Place
  | 0, count, s => if least ≤ count then [s] else []
  | fuel + 1, count, s =>
    (if least ≤ count then [s] else []) ++
      (if mayContinue most count then
        match s.step? p with
        | some next => lazyEnds p least most fuel (count + 1) next
        | none => []
      else [])

/-- The ways of a loop over one character. -/
def testEnds (p : Char → Bool) (appetite : Appetite) (least : Nat) (most : Option Nat) (s : Place) :
    List Place :=
  match appetite with
  | .greedy => stops p least most s
  | .lazy => lazyEnds p least most s.after.length 0 s
  | .possessive => (stops p least most s).take 1

def greedyEnds (body : Place → List Place) (least : Nat) (most : Option Nat) :
    (fuel : Nat) → (count : Nat) → (last : Option Nat) → Place → List Place
  | 0, _, _, _ => []
  | fuel + 1, count, last, s =>
    if count < least then (body s).flatMap (greedyEnds body least most fuel (count + 1) last)
    else if mayContinue most count && last != some s.position then
      (body s).flatMap (greedyEnds body least most fuel (count + 1) (some s.position)) ++ [s]
    else [s]

def reluctantEnds (body : Place → List Place) (least : Nat) (most : Option Nat) :
    (fuel : Nat) → (count : Nat) → (last : Option Nat) → Place → List Place
  | 0, _, _, _ => []
  | fuel + 1, count, last, s =>
    if count < least then (body s).flatMap (reluctantEnds body least most fuel (count + 1) last)
    else if mayContinue most count && last != some s.position then
      s :: (body s).flatMap (reluctantEnds body least most fuel (count + 1) (some s.position))
    else [s]

/-- The ways of a loop over any node; one that gives nothing back has one way at most. -/
def loopEnds (body : Place → List Place) (appetite : Appetite) (least : Nat) (most : Option Nat)
    (s : Place) : List Place :=
  let fuel := least + s.after.length + 2
  match appetite with
  | .greedy => greedyEnds body least most fuel 0 none s
  | .lazy => reluctantEnds body least most fuel 0 none s
  | .possessive => (possessively (inOrder body) least most fuel 0 none s).toList

/-- The places at which the ways of a node end, the first way first. -/
def Node.ends : Node → Flags → Place → List Place
  | .empty, _ => fun s => [s]
  | .literal code, f => fun s => (s.step? (f.sameCode code)).toList
  | .notLiteral code, f => fun s => (s.step? fun c => !f.sameCode code c).toList
  | .any, f => fun s => (s.step? fun c => f.dotAll || c != '\n').toList
  | .set negated items, f => fun s =>
    (s.step? fun c => (items.any (SetItem.holds f c)) != negated).toList
  | .anchor a, f => fun s => if s.satisfies f a then [s] else []
  | .seq first second, f => fun s => (first.ends f s).flatMap (second.ends f)
  | .alt first second, f => fun s => first.ends f s ++ second.ends f s
  | .group index body, f => fun s =>
    (body.ends f (s.mark (2 * index))).map (·.mark (2 * index + 1))
  | .withFlags on off body, f => body.ends (f.within on off)
  | .loop appetite least most body, f =>
    match body.test? f with
    | some p => testEnds p appetite least most
    | none => loopEnds (body.ends f) appetite least most
  | .ahead negated body, f => fun s =>
    match (body.ends f s).head? with
    | some t => if negated then [] else [{ s with marks := t.marks }]
    | none => if negated then [s] else []
  | .behind negated width body, f => fun s =>
    match (s.back? width.least).bind fun start => (body.ends f start).head? with
    | some t => if negated then [] else [{ s with marks := t.marks }]
    | none => if negated then [s] else []
  | .atomic body, f => fun s => (body.ends f s).take 1
  | .backref index, f => fun s =>
    match s.captured? index with
    | some text => (repeatText f text s).toList
    | none => []
  | .conditional index yes no, f => fun s =>
    if (s.span? index).isSome then yes.ends f s else no.ends f s

/-! ## Trying them in order -/

theorem firstOf_eq_findSome? (k : Continuation) (places : List Place) :
    firstOf k places = places.findSome? k := by
  induction places with
  | nil => rfl
  | cons s places ih =>
    rw [firstOf, List.findSome?_cons, ih]
    cases k s <;> rfl

theorem findSome?_toList (k : Continuation) (t : Option Place) :
    t.toList.findSome? k = t.bind k := by
  cases t with
  | none => rfl
  | some t => exact List.findSome?_singleton

theorem findSome?_flatMap (k : Continuation) (rest : Place → List Place) (places : List Place) :
    (places.flatMap rest).findSome? k = places.findSome? fun t => (rest t).findSome? k := by
  induction places with
  | nil => rfl
  | cons s places ih =>
    rw [List.flatMap_cons, List.findSome?_append, ih, List.findSome?_cons]
    cases (rest s).findSome? k <;> rfl

theorem inOrder_some (ends : Place → List Place) (s : Place) :
    inOrder ends some s = (ends s).head? := by
  unfold inOrder
  cases ends s <;> rfl

theorem inOrder_eq_findSome? {body ends : Place → List Place} {k k' : Continuation}
    (h : ∀ t, k' t = (ends t).findSome? k) (s : Place) :
    inOrder body k' s = ((body s).flatMap ends).findSome? k := by
  rw [findSome?_flatMap, inOrder]
  congr 1
  funext t
  exact h t

theorem lazily_eq (p : Char → Bool) (least : Nat) (most : Option Nat) (k : Continuation)
    (fuel count : Nat) (s : Place) :
    lazily p least most k fuel count s = (lazyEnds p least most fuel count s).findSome? k := by
  induction fuel generalizing count s with
  | zero =>
    unfold lazily lazyEnds
    split <;> simp
  | succ fuel ih =>
    have hstop : (if least ≤ count then k s else none) =
        (if least ≤ count then [s] else []).findSome? k := by
      split <;> simp
    unfold lazily lazyEnds
    rw [List.findSome?_append, ← hstop]
    cases (if least ≤ count then k s else none) with
    | some final => rfl
    | none =>
      cases mayContinue most count with
      | false => rfl
      | true =>
        cases s.step? p with
        | none => rfl
        | some next => exact ih (count + 1) next

theorem greedily_eq (body : Place → List Place) (least : Nat) (most : Option Nat)
    (k : Continuation) (fuel count : Nat) (last : Option Nat) (s : Place) :
    greedily (inOrder body) least most k fuel count last s =
      (greedyEnds body least most fuel count last s).findSome? k := by
  induction fuel generalizing count last s with
  | zero => rfl
  | succ fuel ih =>
    have hrounds : ∀ last' : Option Nat,
        inOrder body (greedily (inOrder body) least most k fuel (count + 1) last') s =
          ((body s).flatMap (greedyEnds body least most fuel (count + 1) last')).findSome? k :=
      fun last' => inOrder_eq_findSome? (ih (count + 1) last') s
    unfold greedily greedyEnds
    split
    · exact hrounds last
    · split
      · rw [hrounds, List.findSome?_append, List.findSome?_singleton]
        cases ((body s).flatMap _).findSome? k <;> rfl
      · exact List.findSome?_singleton.symm

theorem reluctantly_eq (body : Place → List Place) (least : Nat) (most : Option Nat)
    (k : Continuation) (fuel count : Nat) (last : Option Nat) (s : Place) :
    reluctantly (inOrder body) least most k fuel count last s =
      (reluctantEnds body least most fuel count last s).findSome? k := by
  induction fuel generalizing count last s with
  | zero => rfl
  | succ fuel ih =>
    have hrounds : ∀ last' : Option Nat,
        inOrder body (reluctantly (inOrder body) least most k fuel (count + 1) last') s =
          ((body s).flatMap (reluctantEnds body least most fuel (count + 1) last')).findSome? k :=
      fun last' => inOrder_eq_findSome? (ih (count + 1) last') s
    unfold reluctantly reluctantEnds
    split
    · exact hrounds last
    · rw [hrounds]
      by_cases hmore : (mayContinue most count && last != some s.position) = true
      · rw [if_pos hmore, if_pos hmore, List.findSome?_cons]
        cases k s <;> rfl
      · rw [if_neg hmore, if_neg hmore, List.findSome?_singleton]
        cases k s <;> rfl

theorem loopTest_eq (p : Char → Bool) (appetite : Appetite) (least : Nat) (most : Option Nat) :
    loopTest p appetite least most = inOrder (testEnds p appetite least most) := by
  funext k s
  unfold loopTest inOrder testEnds
  cases appetite with
  | greedy => exact firstOf_eq_findSome? k _
  | lazy => exact lazily_eq p least most k _ 0 s
  | possessive => cases stops p least most s <;> simp

theorem loopWays_eq (body : Place → List Place) (appetite : Appetite) (least : Nat)
    (most : Option Nat) :
    loopWays (inOrder body) appetite least most = inOrder (loopEnds body appetite least most) := by
  funext k s
  unfold loopWays loopEnds
  cases appetite with
  | greedy => exact greedily_eq body least most k _ 0 none s
  | lazy => exact reluctantly_eq body least most k _ 0 none s
  | possessive =>
    simp only [inOrder, findSome?_toList]
    cases possessively _ least most _ 0 none s <;> rfl

/-- **The matcher tries the ways of a node in their order** and answers with the first on which the
continuation succeeds. -/
theorem run_eq_inOrder (node : Node) (f : Flags) : node.run f = inOrder (node.ends f) := by
  induction node generalizing f with
  | empty =>
    funext k s
    exact List.findSome?_singleton.symm
  | literal code =>
    funext k s
    exact (findSome?_toList k _).symm
  | notLiteral code =>
    funext k s
    exact (findSome?_toList k _).symm
  | any =>
    funext k s
    exact (findSome?_toList k _).symm
  | set negated items =>
    funext k s
    exact (findSome?_toList k _).symm
  | anchor a =>
    funext k s
    simp only [Node.run, inOrder, Node.ends]
    split <;> simp
  | seq first second ihf ihs =>
    funext k s
    rw [Node.run, ihf, ihs]
    exact (findSome?_flatMap k _ _).symm
  | alt first second ihf ihs =>
    funext k s
    rw [Node.run, ihf, ihs]
    simp only [inOrder, Node.ends, List.findSome?_append]
    cases (first.ends f s).findSome? k <;> rfl
  | group index body ih =>
    funext k s
    rw [Node.run, ih]
    simp only [inOrder, Node.ends, List.findSome?_map]
    rfl
  | withFlags on off body ih => exact ih (f.within on off)
  | loop appetite least most body ih =>
    unfold Node.run Node.ends
    cases body.test? f with
    | some p => exact loopTest_eq p appetite least most
    | none =>
      simp only [ih]
      exact loopWays_eq _ appetite least most
  | ahead negated body ih =>
    funext k s
    simp only [Node.run, ih, inOrder_some]
    simp only [inOrder, Node.ends]
    cases (body.ends f s).head? <;> cases negated <;> simp
  | behind negated width body ih =>
    funext k s
    have hback : (s.back? width.least).bind (body.run f some) =
        (s.back? width.least).bind fun start => (body.ends f start).head? := by
      congr 1
      funext start
      rw [ih, inOrder_some]
    simp only [Node.run, hback, inOrder, Node.ends]
    cases (s.back? width.least).bind _ <;> cases negated <;> simp
  | atomic body ih =>
    funext k s
    simp only [Node.run, ih, inOrder_some]
    simp only [inOrder, Node.ends, List.take_one, findSome?_toList]
  | backref index =>
    funext k s
    simp only [Node.run, inOrder, Node.ends]
    cases s.captured? index with
    | none => rfl
    | some text => exact (findSome?_toList k _).symm
  | conditional index yes no ihy ihn =>
    funext k s
    simp only [Node.run, ihy, ihn, inOrder, Node.ends]
    split <;> rfl

/-! ## Searching -/

theorem exists_of_searchFrom {ways : Ways} {before : List Char} {position : Nat} {cs : List Char}
    {t : Place} (h : searchFrom ways before position cs = some t) :
    ∃ u v, cs = u ++ v ∧ ways some ⟨position + u.length, u.reverse ++ before, v, []⟩ = some t := by
  induction cs generalizing before position with
  | nil => exact ⟨[], [], rfl, h⟩
  | cons c cs ih =>
    rw [searchFrom] at h
    split at h
    · rename_i final hfinal
      rw [← Option.some_inj.1 h]
      exact ⟨[], c :: cs, rfl, hfinal⟩
    · obtain ⟨u, v, rfl, hways⟩ := ih h
      refine ⟨c :: u, v, rfl, ?_⟩
      have hposition : position + 1 + u.length = position + (c :: u).length := by
        rw [List.length_cons]
        omega
      rw [← hposition, List.reverse_cons, List.append_assoc]
      exact hways

theorem searchFrom_of_front {ways : Ways} {before : List Char} {position : Nat} {cs : List Char}
    {t : Place} (h : ways some ⟨position, before, cs, []⟩ = some t) :
    searchFrom ways before position cs = some t := by
  cases cs with
  | nil => exact h
  | cons c cs => rw [searchFrom, h]

/-- The set of first characters lets every match of a root pass. -/
def Unrestricted (p : Pattern) : Prop := p.root.begin p.flags = p.root.run p.flags

/-- A match that is found is a way of the pattern at some place of the text. -/
theorem exists_of_search {p : Pattern} (hp : Unrestricted p) {text : List Char} {t : Place}
    (h : p.search text = some t) :
    ∃ u v, text = u ++ v ∧ t ∈ p.root.ends p.flags ⟨u.length, u.reverse, v, []⟩ := by
  rw [search, hp, run_eq_inOrder] at h
  obtain ⟨u, v, rfl, hways⟩ := exists_of_searchFrom h
  rw [inOrder_some, Nat.zero_add, List.append_nil] at hways
  exact ⟨u, v, rfl, List.mem_of_head? hways⟩

/-- The first way at the start of the text is the match that is found. -/
theorem search_of_front {p : Pattern} (hp : Unrestricted p) {text : List Char} {t : Place}
    (h : (p.root.ends p.flags (Place.start text)).head? = some t) : p.search text = some t := by
  rw [search, hp, run_eq_inOrder]
  apply searchFrom_of_front
  rw [inOrder_some]
  exact h

end TypeMismatch.Pattern
