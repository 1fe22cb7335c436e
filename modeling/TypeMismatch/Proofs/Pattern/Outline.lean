import TypeMismatch.Proofs.Pattern.Passing

/-!
# Patterns with two types in quotes

The patterns of the standard templates have one form: some words, a type in quotes, more words, a
second type in quotes, and what may follow.  An `Outline` gives the words, and `Outline.Fits` says
which texts it describes and which types these name.

A way of such a pattern is a text that fits, with its types captured (`fits_of_mem_ends`), and each
text that fits is passed by some way (`exists_mem_ends_of_fits`).  Which of several ways comes first
is not said here: in a text with four quotes they all name the same types.
-/

namespace TypeMismatch.Pattern

/-- The flags of a pattern without options. -/
def plainFlags : Flags := { Flags.none with unicode := true }

/-! ## Sequences of nodes -/

theorem ends_ofList_cons (node : Node) (nodes : List Node) (f : Flags) :
    (Node.ofList (node :: nodes)).ends f =
      fun s => (node.ends f s).flatMap ((Node.ofList nodes).ends f) := by
  cases nodes with
  | nil =>
    funext s
    exact (List.flatMap_singleton' _).symm
  | cons next nodes => rfl

theorem ends_ofList_append (nodes more : List Node) (f : Flags) (s : Place) :
    (Node.ofList (nodes ++ more)).ends f s =
      ((Node.ofList nodes).ends f s).flatMap ((Node.ofList more).ends f) := by
  induction nodes generalizing s with
  | nil => simp [Node.ofList, Node.ends]
  | cons node nodes ih =>
    have hrest := funext ih
    simp only [List.cons_append, ends_ofList_cons, List.flatMap_assoc, hrest]

theorem mem_ends_ofList_append {nodes more : List Node} {f : Flags} {s t : Place} :
    t ∈ (Node.ofList (nodes ++ more)).ends f s ↔
      ∃ m ∈ (Node.ofList nodes).ends f s, t ∈ (Node.ofList more).ends f m := by
  rw [ends_ofList_append, List.mem_flatMap]

theorem Passes.ofList_append {nodes more : List Node} {f : Flags} {L M : List Char → Prop}
    (h : Passes ((Node.ofList nodes).ends f) L) (h' : Passes ((Node.ofList more).ends f) M) :
    Passes ((Node.ofList (nodes ++ more)).ends f) fun w => ∃ u v, L u ∧ M v ∧ w = u ++ v := by
  intro s t
  rw [mem_ends_ofList_append, ← List.mem_flatMap]
  exact h.flatMap h' s t

/-! ## Words -/

theorem sameCode_plain (c d : Char) : plainFlags.sameCode c.toNat d = (d == c) := by
  have hcode : plainFlags.sameCode c.toNat d = (d.toNat == c.toNat) := Bool.or_false _
  rw [hcode, Bool.eq_iff_iff, beq_iff_eq, beq_iff_eq, Char.toNat_inj]

theorem holds_code_plain (c d : Char) : SetItem.holds plainFlags d (.code c.toNat) = (d == c) := by
  have hcode : SetItem.holds plainFlags d (.code c.toNat) =
      if lastBasic < c.toNat then d.toNat == c.toNat else plainFlags.sameCode c.toNat d := rfl
  rw [hcode, sameCode_plain]
  split
  · rw [Bool.eq_iff_iff, beq_iff_eq, beq_iff_eq, Char.toNat_inj]
  · rfl

/-- A word of a pattern, as a text or with a little freedom. -/
inductive Part where
  | text (cs : List Char)
  | either (c d : Char)
  /-- Any characters up to the end of the line. -/
  | line
  | optional (cs : List Char)

def literals (cs : List Char) : List Node := cs.map fun c => .literal c.toNat

namespace Part

def nodes : Part → List Node
  | .text cs => literals cs
  | .either c d => [.set false [.code c.toNat, .code d.toNat]]
  | .line => [.loop .greedy 0 none .any]
  | .optional cs => [.loop .greedy 0 (some 1) (Node.ofList (literals cs))]

def Spells : Part → List Char → Prop
  | .text cs, u => u = cs
  | .either c d, u => u = [c] ∨ u = [d]
  | .line, u => '\n' ∉ u
  | .optional cs, u => u = [] ∨ u = cs

end Part

theorem passes_literal (c : Char) :
    Passes ((Node.literal c.toNat).ends plainFlags) fun u => u = [c] := by
  refine (passes_step? (plainFlags.sameCode c.toNat)).congr ?_
  intro u
  simp [sameCode_plain]

theorem passes_literals (cs : List Char) :
    Passes ((Node.ofList (literals cs)).ends plainFlags) fun u => u = cs := by
  induction cs with
  | nil => exact passes_nil
  | cons c cs ih =>
    rw [literals, List.map_cons, ends_ofList_cons]
    refine ((passes_literal c).flatMap ih).congr ?_
    intro u
    simp

theorem ends_literals {cs : List Char} {s : Place} (h : cs <+: s.after) :
    (Node.ofList (literals cs)).ends plainFlags s = [s.past cs] := by
  induction cs generalizing s with
  | nil => rfl
  | cons c cs ih =>
    have hc : [c] <+: s.after := (List.prefix_append [c] cs).trans h
    have hstep : (Node.literal c.toNat).ends plainFlags s = [s.past [c]] := by
      have : s.step? (plainFlags.sameCode c.toNat) = some (s.past [c]) :=
        Place.step?_eq_some_iff.2 ⟨c, by simp [sameCode_plain], hc, rfl⟩
      simp only [Node.ends, this, Option.toList_some]
    rw [literals, List.map_cons, ends_ofList_cons]
    simp only [hstep, List.flatMap_singleton]
    refine (ih ((Place.prefix_after_past hc).2 h)).trans ?_
    rw [← Place.past_append]
    rfl

theorem passes_line (least : Nat) :
    Passes ((Node.loop .greedy least none .any).ends plainFlags) fun u =>
      least ≤ u.length ∧ '\n' ∉ u := by
  refine (passes_stops (fun c => plainFlags.dotAll || c != '\n') least none).congr ?_
  intro u
  constructor
  · rintro ⟨hleast, -, hp⟩
    refine ⟨hleast, fun hn => ?_⟩
    have := hp '\n' hn
    contradiction
  · rintro ⟨hleast, hn⟩
    refine ⟨hleast, by simp, fun c hc => ?_⟩
    have hne : c ≠ '\n' := by
      rintro rfl
      exact hn hc
    simpa [plainFlags, Flags.none] using hne

/-- A loop of one round at most: the round, or none. -/
theorem ends_optional {body : Node} {f : Flags} (h : body.test? f = none) :
    (Node.loop .greedy 0 (some 1) body).ends f = fun s => body.ends f s ++ [s] := by
  funext s
  have hround : greedyEnds (body.ends f) 0 (some 1) (s.after.length + 1) 1 (some s.position) =
      fun t => [t] := by
    funext t
    simp [greedyEnds, mayContinue]
  have hfuel : 0 + s.after.length + 2 = s.after.length + 1 + 1 := by omega
  simp only [Node.ends, h, loopEnds, hfuel]
  rw [greedyEnds, hround]
  simp [mayContinue]

theorem passes_optional (cs : List Char) :
    Passes ((Node.loop .greedy 0 (some 1) (Node.ofList (literals cs))).ends plainFlags) fun u =>
      u = [] ∨ u = cs := by
  have hmany : (Node.ofList (literals cs)).test? plainFlags = none →
      Passes ((Node.loop .greedy 0 (some 1) (Node.ofList (literals cs))).ends plainFlags) fun u =>
        u = [] ∨ u = cs := by
    intro h
    rw [ends_optional h]
    exact ((passes_literals cs).append passes_nil).congr fun u => or_comm
  match cs with
  | [] => exact hmany rfl
  | [c] =>
    refine (passes_stops (plainFlags.sameCode c.toNat) 0 (some 1)).congr ?_
    intro u
    simp only [sameCode_plain, beq_iff_eq, Option.some_inj, forall_eq', Nat.zero_le, true_and]
    match u with
    | [] => simp
    | [d] => simp
    | d :: e :: rest => simp
  | c :: d :: rest => exact hmany rfl

theorem Part.passes (p : Part) : Passes ((Node.ofList p.nodes).ends plainFlags) p.Spells := by
  cases p with
  | text cs => exact passes_literals cs
  | either c d =>
    refine (passes_step? _).congr ?_
    intro u
    simp [Part.Spells, holds_code_plain]
  | line => exact (passes_line 0).congr fun u => by simp [Part.Spells]
  | optional cs => exact passes_optional cs

/-- The texts of some words, one after another. -/
def SpellAll : List Part → List Char → Prop
  | [], w => w = []
  | p :: ps, w => ∃ u v, p.Spells u ∧ SpellAll ps v ∧ w = u ++ v

theorem spellAll_text {cs w : List Char} : SpellAll [.text cs] w ↔ w = cs := by
  constructor
  · rintro ⟨u, v, rfl, rfl, rfl⟩
    exact List.append_nil u
  · rintro rfl
    exact ⟨w, [], rfl, rfl, (List.append_nil w).symm⟩

theorem passes_parts (ps : List Part) :
    Passes ((Node.ofList (ps.flatMap Part.nodes)).ends plainFlags) (SpellAll ps) := by
  induction ps with
  | nil => exact passes_nil
  | cons p ps ih =>
    rw [List.flatMap_cons]
    exact p.passes.ofList_append ih

/-! ## Types in quotes -/

/-- Some characters of one line. -/
def IsLine (a : List Char) : Prop := a ≠ [] ∧ '\n' ∉ a

def quote (a : List Char) : List Char := '\'' :: (a ++ ['\''])

/-- The nodes that capture a type in quotes. -/
def quoted (index : Nat) : List Node :=
  [.literal '\''.toNat, .group index (.loop .greedy 1 none .any), .literal '\''.toNat]

/-- The place behind a type in quotes that has been captured. -/
def Place.quote (index : Nat) (a : List Char) (s : Place) : Place :=
  ((s.past ['\'']).capture index a).past ['\'']

theorem mem_ends_group {index : Nat} {body : Node} {f : Flags} {L : List Char → Prop}
    (h : Passes (body.ends f) L) {s t : Place} :
    t ∈ (Node.group index body).ends f s ↔ ∃ a, L a ∧ a <+: s.after ∧ t = s.capture index a := by
  simp only [Node.ends, List.mem_map]
  constructor
  · rintro ⟨m, hm, rfl⟩
    obtain ⟨a, ha, hbegin, rfl⟩ := (h _ m).1 hm
    exact ⟨a, ha, hbegin, rfl⟩
  · rintro ⟨a, ha, hbegin, rfl⟩
    exact ⟨(s.mark (2 * index)).past a, (h _ _).2 ⟨a, ha, hbegin, rfl⟩, rfl⟩

theorem isLine_iff {a : List Char} : 1 ≤ a.length ∧ '\n' ∉ a ↔ IsLine a := by
  rw [IsLine, Nat.one_le_iff_ne_zero, Ne, List.length_eq_zero_iff]

namespace Place

theorem after_quote (index : Nat) (a : List Char) (s : Place) :
    (s.quote index a).after = (s.past (Pattern.quote a)).after := by
  simp [quote, Pattern.quote, List.drop_drop]

theorem prefix_after_quote (index : Nat) {a v : List Char} {s : Place}
    (ha : Pattern.quote a <+: s.after) :
    v <+: (s.quote index a).after ↔ Pattern.quote a ++ v <+: s.after := by
  rw [after_quote, prefix_after_past ha]

theorem Located.quote {s : Place} (h : s.Located) (index : Nat) (a : List Char) :
    (s.quote index a).Located :=
  ((h.past ['\'']).capture index a).past ['\'']

/-- A type in quotes is three texts, each of which begins what the one before it leaves. -/
theorem prefix_quote_iff (index : Nat) {a : List Char} {s : Place} :
    Pattern.quote a <+: s.after ↔ ['\''] <+: s.after ∧ a <+: (s.past ['\'']).after ∧
      ['\''] <+: ((s.past ['\'']).capture index a).after := by
  have hafter : ((s.past ['\'']).capture index a).after = ((s.past ['\'']).past a).after := rfl
  rw [hafter]
  constructor
  · intro ha
    have hopen : ['\''] <+: s.after := (List.prefix_append ['\''] (a ++ ['\''])).trans ha
    have hrest : a ++ ['\''] <+: (s.past ['\'']).after := (prefix_after_past hopen).2 ha
    have hinner : a <+: (s.past ['\'']).after := (List.prefix_append a ['\'']).trans hrest
    exact ⟨hopen, hinner, (prefix_after_past hinner).2 hrest⟩
  · rintro ⟨hopen, hinner, hclose⟩
    rwa [prefix_after_past hinner, prefix_after_past hopen] at hclose

section Captured

variable {index : Nat} {a : List Char} {s : Place} (ha : Pattern.quote a <+: s.after)

include ha

theorem captured?_quote (hs : s.Located) : (s.quote index a).captured? index = some a := by
  obtain ⟨-, hinner, hclose⟩ := (prefix_quote_iff index).1 ha
  rw [quote, captured?_past hclose, captured?_capture (hs.past _) hinner]

theorem captured?_quote_of_ne {other : Nat} (h : other ≠ index) :
    (s.quote index a).captured? other = s.captured? other := by
  obtain ⟨hopen, hinner, hclose⟩ := (prefix_quote_iff index).1 ha
  rw [quote, captured?_past hclose, captured?_capture_of_ne hinner h, captured?_past hopen]

end Captured

end Place

theorem mem_ends_quoted {index : Nat} {s t : Place} :
    t ∈ (Node.ofList (quoted index)).ends plainFlags s ↔
      ∃ a, IsLine a ∧ quote a <+: s.after ∧ t = s.quote index a := by
  have hquote := passes_literal '\''
  have hgroup := @mem_ends_group index _ plainFlags _ (passes_line 1)
  rw [quoted, ends_ofList_cons, ends_ofList_cons]
  simp only [List.mem_flatMap, Node.ofList]
  constructor
  · rintro ⟨m, hm, m', hm', ht⟩
    obtain ⟨_, rfl, hopen, rfl⟩ := (hquote s m).1 hm
    obtain ⟨a, ha, hinner, rfl⟩ := hgroup.1 hm'
    obtain ⟨_, rfl, hclose, rfl⟩ := (hquote _ t).1 ht
    exact ⟨a, isLine_iff.1 ha, (Place.prefix_quote_iff index).2 ⟨hopen, hinner, hclose⟩, rfl⟩
  · rintro ⟨a, ha, hbegin, rfl⟩
    obtain ⟨hopen, hinner, hclose⟩ := (Place.prefix_quote_iff index).1 hbegin
    exact ⟨s.past ['\''], (hquote _ _).2 ⟨_, rfl, hopen, rfl⟩, _,
      hgroup.2 ⟨a, isLine_iff.2 ha, hinner, rfl⟩, (hquote _ _).2 ⟨_, rfl, hclose, rfl⟩⟩

/-! ## Outlines -/

/-- The words around two types in quotes. -/
structure Outline where
  lead : List Part
  link : List Part
  trail : List Part

namespace Outline

def nodes (o : Outline) : List Node :=
  o.lead.flatMap Part.nodes ++ (quoted 1 ++ (o.link.flatMap Part.nodes ++
    (quoted 2 ++ o.trail.flatMap Part.nodes)))

/-- The text fits the outline and names the two types. -/
inductive Fits (o : Outline) : (text actual expected : List Char) → Prop
  | intro {u a m b w : List Char} (lead : SpellAll o.lead u) (actual : IsLine a)
      (link : SpellAll o.link m) (expected : IsLine b) (trail : SpellAll o.trail w) :
      Fits o (u ++ (quote a ++ (m ++ (quote b ++ w)))) a b

variable {o : Outline} {s t : Place}

theorem fits_of_mem_ends (hs : s.Located) (h : t ∈ (Node.ofList o.nodes).ends plainFlags s) :
    ∃ v a b, o.Fits v a b ∧ v <+: s.after ∧ t.captured? 1 = some a ∧ t.captured? 2 = some b := by
  simp only [nodes, mem_ends_ofList_append] at h
  obtain ⟨m₁, h₁, m₂, h₂, m₃, h₃, m₄, h₄, h₅⟩ := h
  obtain ⟨u, hu, pu, rfl⟩ := (passes_parts o.lead s m₁).1 h₁
  obtain ⟨a, ha, pa, rfl⟩ := mem_ends_quoted.1 h₂
  obtain ⟨m, hm, pm, rfl⟩ := (passes_parts o.link _ m₃).1 h₃
  obtain ⟨b, hb, pb, rfl⟩ := mem_ends_quoted.1 h₄
  obtain ⟨w, hw, pw, rfl⟩ := (passes_parts o.trail _ t).1 h₅
  refine ⟨_, a, b, .intro hu ha hm hb hw, ?_, ?_, ?_⟩
  · rwa [Place.prefix_after_quote 2 pb, Place.prefix_after_past pm, Place.prefix_after_quote 1 pa,
      Place.prefix_after_past pu] at pw
  · rw [Place.captured?_past pw, Place.captured?_quote_of_ne pb (by decide),
      Place.captured?_past pm, Place.captured?_quote pa (hs.past u)]
  · rw [Place.captured?_past pw, Place.captured?_quote pb (((hs.past u).quote 1 a).past m)]

theorem exists_mem_ends_of_fits {v a b : List Char} (h : o.Fits v a b) (hv : v <+: s.after) :
    ∃ t, t ∈ (Node.ofList o.nodes).ends plainFlags s := by
  obtain @⟨u, a, m, b, w, hu, ha, hm, hb, hw⟩ := h
  have pu : u <+: s.after := (List.prefix_append u _).trans hv
  have hv₁ := (Place.prefix_after_past pu).2 hv
  have pa : quote a <+: (s.past u).after := (List.prefix_append _ _).trans hv₁
  have hv₂ := (Place.prefix_after_quote 1 pa).2 hv₁
  have pm : m <+: ((s.past u).quote 1 a).after := (List.prefix_append _ _).trans hv₂
  have hv₃ := (Place.prefix_after_past pm).2 hv₂
  have pb : quote b <+: (((s.past u).quote 1 a).past m).after :=
    (List.prefix_append _ _).trans hv₃
  have pw := (Place.prefix_after_quote 2 pb).2 hv₃
  refine ⟨((((s.past u).quote 1 a).past m).quote 2 b).past w, ?_⟩
  simp only [nodes, mem_ends_ofList_append]
  exact ⟨_, (passes_parts o.lead s _).2 ⟨u, hu, pu, rfl⟩, _, mem_ends_quoted.2 ⟨a, ha, pa, rfl⟩, _,
    (passes_parts o.link _ _).2 ⟨m, hm, pm, rfl⟩, _, mem_ends_quoted.2 ⟨b, hb, pb, rfl⟩,
    (passes_parts o.trail _ _).2 ⟨w, hw, pw, rfl⟩⟩

end Outline

end TypeMismatch.Pattern
