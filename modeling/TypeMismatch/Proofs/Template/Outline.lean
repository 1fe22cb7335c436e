import TypeMismatch.Proofs.Pattern.Sentence
import TypeMismatch.Template

/-!
# Templates with an outline

A template whose pattern has an outline finds the types of a part of the message that fits the
outline (`exists_fits_of_match?`), and if the message begins with a fitting text, a part at its
beginning (`match?_of_fits`).  Of a sentence with four quotes it therefore finds the two types
(`match?_of_sentence`), or it asks for other words (`match?_eq_none_of_link`).

A pattern may ask for an introduction in front, with anything between it and the outline.  Then of
all fitting parts behind the introduction none begins later than the one that is found
(`match?_of_last_fits`): the loop over anything takes as much as it can.
-/

namespace TypeMismatch

namespace Pattern

theorem unrestricted_of_firstSet? {p : Pattern} (h : p.root.firstSet? p.flags = none) :
    Unrestricted p := by
  unfold Unrestricted Node.begin
  rw [h]

theorem step?_eq_none_of_head? {p : Char → Bool} {s : Place} (h : s.after.head?.any p = false) :
    s.step? p = none := by
  unfold Place.step?
  split
  · rename_i c rest hafter
    rw [hafter, List.head?_cons, Option.any_some] at h
    rw [h]
    rfl
  · rfl

/-- A set in front restricts the first character as much as the match itself does. -/
theorem unrestricted_of_set {source : String} {negated : Bool} {items : List SetItem}
    {nodes : List Node} {groups : Nat} :
    Unrestricted ⟨source, Node.ofList (.set negated items :: nodes), groups, plainFlags⟩ := by
  have hfirst : (Node.ofList (.set negated items :: nodes)).firstSet? plainFlags =
      some ⟨negated, items⟩ := by
    cases nodes <;> rfl
  unfold Unrestricted Node.begin
  simp only [hfirst]
  funext k s
  split
  · rfl
  · rename_i hadmits
    have hstep : s.step? (fun c => items.any (SetItem.holds plainFlags c) != negated) = none :=
      step?_eq_none_of_head? (Bool.eq_false_iff.2 hadmits)
    cases nodes with
    | nil =>
      simp only [Node.ofList, Node.run]
      rw [hstep]
      rfl
    | cons node nodes =>
      simp only [Node.ofList, Node.run]
      rw [hstep]
      rfl

end Pattern

namespace Template

open Pattern

theorem capturedText?_eq_some_iff {place : Place} {group : Nat} {a : String} :
    capturedText? place group = some a ↔
      place.captured? group = some a.toList ∧ a.toList ≠ [] := by
  unfold capturedText?
  constructor
  · intro h
    split at h
    · rename_i c cs hcaptured
      rw [← Option.some_inj.1 h, String.toList_ofList]
      exact ⟨hcaptured, List.cons_ne_nil c cs⟩
    · cases h
  · rintro ⟨hcaptured, hne⟩
    cases hcs : a.toList with
    | nil => exact absurd hcs hne
    | cons c cs =>
      rw [hcs] at hcaptured
      simp only [hcaptured]
      rw [← hcs, String.ofList_toList]

theorem eq_of_capturedText? {place : Place} {group : Nat} {a : String} {cs : List Char}
    (ha : capturedText? place group = some a) (hcs : place.captured? group = some cs) :
    cs = a.toList := by
  rw [(capturedText?_eq_some_iff.1 ha).1, Option.some_inj] at hcs
  exact hcs.symm

theorem match?_eq_some_iff {t : Template} {message a b : String} :
    t.match? message = some (a, b) ↔
      ∃ place, t.pattern.search message.toList = some place ∧
        capturedText? place 1 = some a ∧ capturedText? place 2 = some b := by
  simp [match?, Option.bind_eq_some_iff]

/-- The pattern of the template is that of an outline, with words of one line. -/
structure Outlined (t : Template) (o : Outline) : Prop where
  root : t.pattern.root = Node.ofList o.nodes
  flags : t.pattern.flags = plainFlags
  unrestricted : Unrestricted t.pattern
  oneLine : o.OneLine

variable {t : Template} {o : Outline}

theorem exists_fits_of_match? (ht : Outlined t o) {message a b : String}
    (h : t.match? message = some (a, b)) :
    ∃ before v rest, message.toList = before ++ (v ++ rest) ∧ o.Fits v a.toList b.toList := by
  obtain ⟨place, hsearch, ha, hb⟩ := match?_eq_some_iff.1 h
  obtain ⟨before, after, htext, hends⟩ := exists_of_search ht.unrestricted hsearch
  rw [ht.root, ht.flags] at hends
  obtain ⟨v, a', b', hfits, ⟨rest, hrest⟩, ha', hb'⟩ :=
    Outline.fits_of_mem_ends (by simp [Place.Located]) hends
  obtain rfl := eq_of_capturedText? ha ha'
  obtain rfl := eq_of_capturedText? hb hb'
  have hafter : v ++ rest = after := hrest
  exact ⟨before, v, rest, by rw [htext, hafter], hfits⟩

theorem match?_of_captured {message : String} {place : Place} {a b : List Char}
    (hsearch : t.pattern.search message.toList = some place)
    (ha : place.captured? 1 = some a) (hb : place.captured? 2 = some b) {v : List Char}
    (hfits : o.Fits v a b) : t.match? message = some (String.ofList a, String.ofList b) := by
  obtain ⟨-, hline, -, hline', -⟩ := hfits
  refine match?_eq_some_iff.2 ⟨place, hsearch, ?_, ?_⟩
  · rw [capturedText?_eq_some_iff, String.toList_ofList]
    exact ⟨ha, hline.1⟩
  · rw [capturedText?_eq_some_iff, String.toList_ofList]
    exact ⟨hb, hline'.1⟩

theorem exists_head?_of_mem {α : Type} {x : α} {xs : List α} (h : x ∈ xs) :
    ∃ y ∈ xs, xs.head? = some y := by
  cases xs with
  | nil => cases h
  | cons y xs => exact ⟨y, List.mem_cons_self, rfl⟩

/-- A message that begins with a fitting text is matched at its beginning. -/
theorem match?_of_fits (ht : Outlined t o) {message : String} {v rest a b : List Char}
    (hv : o.Fits v a b) (hmessage : message.toList = v ++ rest) :
    ∃ v' rest' a' b', message.toList = v' ++ rest' ∧ o.Fits v' a' b' ∧
      t.match? message = some (String.ofList a', String.ofList b') := by
  have hstart : v <+: (Place.start message.toList).after := ⟨rest, hmessage.symm⟩
  obtain ⟨place, hplace⟩ := Outline.exists_mem_ends_of_fits hv hstart
  obtain ⟨first, hmem, hfirst⟩ := exists_head?_of_mem hplace
  have hlocated : (Place.start message.toList).Located := by simp [Place.Located, Place.start]
  obtain ⟨v', a', b', hfits, ⟨rest', hrest⟩, ha, hb⟩ := Outline.fits_of_mem_ends hlocated hmem
  have hsearch : t.pattern.search message.toList = some first := by
    apply search_of_front ht.unrestricted
    rw [ht.root, ht.flags]
    exact hfirst
  exact ⟨v', rest', a', b', hrest.symm, hfits, match?_of_captured hsearch ha hb hfits⟩

/-- A sentence at the start of a message is read as it is meant, whatever follows its line. -/
theorem match?_of_sentence (ht : Outlined t o) {s : Sentence} (hquotes : s.Omits '\'')
    (hs : o.Describes s) {message : String} {more : List Char} (hmore : FollowsLine more)
    (hmessage : message.toList = s.text ++ more) :
    t.match? message = some (String.ofList s.actual, String.ofList s.expected) := by
  obtain ⟨v, hv, htext⟩ := hs.exists_fits
  have hfront : message.toList = v ++ (s.trail ++ more) := by
    rw [hmessage, htext, List.append_assoc]
  obtain ⟨v', rest, a, b, hfound, hfits, hmatch⟩ := match?_of_fits ht hv hfront
  have hbegin : v' <+: s.text ++ more := ⟨rest, by rw [← hfound, hmessage]⟩
  obtain ⟨rest', hrest⟩ := prefix_line hmore (hfits.notMem ht.oneLine) hbegin
  obtain ⟨rfl, rfl, -⟩ := hfits.eq_of_sentence hquotes [] hrest
  exact hmatch

theorem match?_eq_none_of_link (ht : Outlined t o) {s : Sentence} (hquotes : s.Omits '\'')
    (hlink : ¬ SpellAll o.link s.link) {message : String} (hmessage : message.toList = s.text) :
    t.match? message = none := by
  rw [Option.eq_none_iff_forall_ne_some]
  rintro ⟨a, b⟩ hmatch
  obtain ⟨before, v, rest, hfound, hfits⟩ := exists_fits_of_match? ht hmatch
  rw [hmessage] at hfound
  exact hlink (hfits.eq_of_sentence hquotes _ hfound.symm).2.2.1

/-! ## Behind an introduction -/

/-- Any characters, also of several lines. -/
def anything : Node :=
  .withFlags { Flags.none with dotAll := true } Flags.none (.loop .greedy 0 none .any)

/-- The pattern of the template asks for an introduction, then anything, then the outline. -/
structure Introduced (t : Template) (introduction : List Char) (o : Outline) : Prop where
  root : t.pattern.root = Node.ofList (literals introduction ++ (anything :: o.nodes))
  flags : t.pattern.flags = plainFlags
  unrestricted : Unrestricted t.pattern

theorem mem_stops_anything {s t : Place} :
    t ∈ stops (fun _ => true) 0 none s ↔ ∃ x, x <+: s.after ∧ t = s.past x := by
  rw [passes_stops]
  simp

variable {introduction : List Char}

/-- Behind the introduction the outline is tried at every later place, the last place first. -/
theorem ends_introduced (nodes : List Node) {s : Place} (h : introduction <+: s.after) :
    (Node.ofList (literals introduction ++ (anything :: nodes))).ends plainFlags s =
      (stops (fun _ => true) 0 none (s.past introduction)).flatMap
        ((Node.ofList nodes).ends plainFlags) := by
  rw [ends_ofList_append, ends_literals h, List.flatMap_singleton, ends_ofList_cons]
  rfl

theorem exists_fits_of_introduced (ht : Introduced t introduction o) {message a b : String}
    (h : t.match? message = some (a, b)) :
    ∃ before x v rest, message.toList = before ++ (introduction ++ (x ++ (v ++ rest))) ∧
      o.Fits v a.toList b.toList := by
  obtain ⟨place, hsearch, ha, hb⟩ := match?_eq_some_iff.1 h
  obtain ⟨before, after, htext, hends⟩ := exists_of_search ht.unrestricted hsearch
  rw [ht.root, ht.flags] at hends
  have hintro : introduction <+: after := by
    obtain ⟨m, hm, -⟩ := mem_ends_ofList_append.1 hends
    obtain ⟨u, hu, hbegin, -⟩ := (passes_literals introduction _ m).1 hm
    rwa [hu] at hbegin
  rw [ends_introduced _ hintro, List.mem_flatMap] at hends
  obtain ⟨m, hm, hends⟩ := hends
  obtain ⟨x, hx, rfl⟩ := mem_stops_anything.1 hm
  have hlocated : Place.Located ⟨before.length, before.reverse, after, []⟩ := by
    simp [Place.Located]
  obtain ⟨v, a', b', hfits, hv, ha', hb'⟩ :=
    Outline.fits_of_mem_ends ((hlocated.past introduction).past x) hends
  obtain rfl := eq_of_capturedText? ha ha'
  obtain rfl := eq_of_capturedText? hb hb'
  obtain ⟨rest, hrest⟩ := (Place.prefix_after_past hintro).1 ((Place.prefix_after_past hx).1 hv)
  have hafter : introduction ++ (x ++ v) ++ rest = after := hrest
  refine ⟨before, x, v, rest, ?_, hfits⟩
  rw [htext, ← hafter, List.append_assoc, List.append_assoc]

/-- The first way of all is a way of the last element that has one. -/
theorem exists_of_head?_flatMap {α β : Type} {r : α → α → Prop} {f : α → List β} {xs : List α}
    {y : β} (hxs : xs.Pairwise r) (h : (xs.flatMap f).head? = some y) :
    ∃ x ∈ xs, y ∈ f x ∧ ∀ x' ∈ xs, f x' ≠ [] → x' = x ∨ r x x' := by
  rw [List.head?_flatMap, List.findSome?_eq_some_iff] at h
  obtain ⟨earlier, x, later, rfl, hy, hearlier⟩ := h
  refine ⟨x, by simp, List.mem_of_head? hy, fun x' hx' hne => ?_⟩
  rcases List.mem_append.1 hx' with hx' | hx'
  · exact absurd (List.head?_eq_none_iff.1 (hearlier x' hx')) hne
  · rcases List.mem_cons.1 hx' with rfl | hx'
    · exact .inl rfl
    · exact .inr (List.rel_of_pairwise_cons (List.pairwise_append.1 hxs).2.1 hx')

/-- **A match is as late as it can be**: behind the introduction no fitting text begins later than
the one whose types are found. -/
theorem match?_of_last_fits (ht : Introduced t introduction o) {message : String}
    {x v rest a b : List Char} (hv : o.Fits v a b)
    (hmessage : message.toList = introduction ++ (x ++ (v ++ rest))) :
    ∃ x' v' rest' a' b', message.toList = introduction ++ (x' ++ (v' ++ rest')) ∧
      x.length ≤ x'.length ∧ o.Fits v' a' b' ∧
      t.match? message = some (String.ofList a', String.ofList b') := by
  have hintro : introduction <+: (Place.start message.toList).after := ⟨_, hmessage.symm⟩
  have hlocated : (Place.start message.toList).Located := by
    simp [Place.Located, Place.start]
  have hends := ends_introduced o.nodes hintro
  generalize hs : (Place.start message.toList).past introduction = s at hends
  have hafter : s.after = x ++ (v ++ rest) := by
    rw [← hs]
    show message.toList.drop introduction.length = _
    rw [hmessage, List.drop_left]
  have hx : x <+: s.after := ⟨v ++ rest, hafter.symm⟩
  -- the outline has a way behind `x`, so the loop stops there or later
  obtain ⟨place, hplace⟩ : ∃ place, place ∈ (Node.ofList o.nodes).ends plainFlags (s.past x) := by
    apply Outline.exists_mem_ends_of_fits hv
    rw [Place.after_past, hafter, List.drop_left]
    exact List.prefix_append v rest
  have hstop : s.past x ∈ stops (fun _ => true) 0 none s := mem_stops_anything.2 ⟨x, hx, rfl⟩
  obtain ⟨first, -, hfirst⟩ := exists_head?_of_mem (List.mem_flatMap.2 ⟨_, hstop, hplace⟩)
  obtain ⟨m, hm, hmem, hlast⟩ := exists_of_head?_flatMap (pairwise_stops _ 0 none s) hfirst
  obtain ⟨x', hx', rfl⟩ := mem_stops_anything.1 hm
  have hlength : x.length ≤ x'.length := by
    rcases hlast (s.past x) hstop (List.ne_nil_of_mem hplace) with h | h
    · have hposition := congrArg Place.position h
      simp only [Place.position_past] at hposition
      omega
    · simp only [Place.position_past] at h
      omega
  have hs' : s.Located := by
    rw [← hs]
    exact hlocated.past introduction
  obtain ⟨v', a', b', hfits, hv', ha, hb⟩ := Outline.fits_of_mem_ends (hs'.past x') hmem
  obtain ⟨rest', hrest⟩ := (Place.prefix_after_past hx').1 hv'
  refine ⟨x', v', rest', a', b', ?_, hlength, hfits, match?_of_captured ?_ ha hb hfits⟩
  · rw [hmessage, ← hafter, ← hrest, List.append_assoc]
  · apply search_of_front ht.unrestricted
    rw [ht.root, ht.flags, hends]
    exact hfirst

/-- There is no room for an introduction in front of the first type. -/
theorem match?_eq_none_of_length (ht : Introduced t introduction o) {s : Sentence}
    (hquotes : s.Omits '\'') (hlead : s.lead.length < introduction.length) {message : String}
    (hmessage : message.toList = s.text) : t.match? message = none := by
  rw [Option.eq_none_iff_forall_ne_some]
  rintro ⟨a, b⟩ hmatch
  obtain ⟨before, x, v, rest, hfound, hfits⟩ := exists_fits_of_introduced ht hmatch
  have htext : (before ++ introduction ++ x) ++ (v ++ rest) = s.text := by
    rw [← hmessage, hfound]
    simp
  obtain ⟨-, -, -, u, -, hu⟩ := hfits.eq_of_sentence hquotes _ htext
  rw [← hu] at hlead
  simp only [List.length_append] at hlead
  omega

/-- A sentence at the end of a message is read as it is meant, whatever stands between it and the
introduction. -/
theorem match?_of_last_sentence (ht : Introduced t introduction o) {s : Sentence}
    (hquotes : s.Omits '\'') (hs : o.Describes s) {message : String} {x : List Char}
    (hmessage : message.toList = introduction ++ (x ++ s.text)) :
    t.match? message = some (String.ofList s.actual, String.ofList s.expected) := by
  obtain ⟨v, hv, htext⟩ := hs.exists_fits
  obtain ⟨x', v', rest, a, b, hfound, hlength, hfits, hmatch⟩ :=
    match?_of_last_fits ht hv (htext ▸ hmessage)
  have htail : x ++ s.text = x' ++ (v' ++ rest) :=
    List.append_cancel_left (hmessage.symm.trans hfound)
  obtain ⟨y, rfl⟩ : x <+: x' :=
    List.prefix_of_prefix_length_le (List.prefix_append x _) (htail ▸ List.prefix_append x' _)
      hlength
  rw [List.append_assoc] at htail
  have hrest : y ++ (v' ++ rest) = s.text := (List.append_cancel_left htail).symm
  obtain ⟨rfl, rfl, -⟩ := hfits.eq_of_sentence hquotes _ hrest
  exact hmatch

end Template

end TypeMismatch
