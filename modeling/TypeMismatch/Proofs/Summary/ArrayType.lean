import TypeMismatch.Proofs.Summary.Array
import TypeMismatch.Proofs.Summary.Union

/-!
# The short form of a type

What the rounds make of a type follows its syntax: the short form of an array is made of the short
form of its items (`TypeExpr.shortForm`).  One round over the text of a type is one pass over the
type (`TypeExpr.pass`), in which every array with plain items becomes a leaf.  An array whose items
hold an angle bracket does not match in this round, since the first such bracket opens
(`plain_or_opens`), and nothing matches across two parts, since what follows a part neither goes
on with a word nor opens an angle bracket (`Parted`).  A pass keeps the short form and a type that
it does not change is in short form, so the rounds compute it (`collapseArrays_text`).
-/

namespace TypeMismatch.Summary

/-! ## Operators -/

/-- A space, a bar or an ampersand is outside of all brackets. -/
def Spread (cs : List Char) : Prop :=
  ∃ u c v, cs = u ++ c :: v ∧ openBrackets u.reverse = 0 ∧ (c = ' ' ∨ c = '|' ∨ c = '&')

theorem spread_iff (cs : List Char) : Spread cs ↔
    ∃ i < cs.length, openBrackets (cs.take i).reverse = 0 ∧
      (cs[i]? = some ' ' ∨ cs[i]? = some '|' ∨ cs[i]? = some '&') := by
  constructor
  · rintro ⟨u, c, v, rfl, hopen, hc⟩
    exact ⟨u.length, by simp, by simpa using hopen, by simpa using hc⟩
  · rintro ⟨i, hi, hopen, hc⟩
    have hsplit := List.take_append_drop i cs
    rw [List.drop_eq_getElem_cons hi] at hsplit
    rw [List.getElem?_eq_getElem hi] at hc
    exact ⟨_, _, _, hsplit.symm, hopen, by simpa using hc⟩

instance (cs : List Char) : Decidable (Spread cs) := decidable_of_iff _ (spread_iff cs).symm

theorem openBrackets_cons_of_plain {c : Char} (hc : isAngle c = false) (before : List Char) :
    openBrackets (c :: before) =
      if isOpener c then openBrackets before + 1
      else if isCloser c then openBrackets before - 1
      else openBrackets before := by
  obtain ⟨hleft, hright⟩ : c ≠ '<' ∧ c ≠ '>' := by simpa [isAngle] using hc
  simp [openBrackets, isOpener, isCloser, hleft, hright, or_assoc]

theorem hasOperatorFrom_iff {before cs : List Char} (hplain : Plain cs) :
    hasOperatorFrom (openBrackets before) cs = true ↔
      ∃ u c v, cs = u ++ c :: v ∧ openBrackets (u.reverse ++ before) = 0 ∧
        (c = ' ' ∨ c = '|' ∨ c = '&') := by
  induction cs generalizing before with
  | nil => simp [hasOperatorFrom]
  | cons d cs ih =>
    obtain ⟨hd, hplain⟩ := plain_cons.1 hplain
    have hrest := @ih (d :: before) hplain
    -- The operator is the first character, or it is one of the rest.
    have hsplit : (∃ u c v, d :: cs = u ++ c :: v ∧ openBrackets (u.reverse ++ before) = 0 ∧
          (c = ' ' ∨ c = '|' ∨ c = '&')) ↔
        (openBrackets before = 0 ∧ (d = ' ' ∨ d = '|' ∨ d = '&')) ∨
          hasOperatorFrom (openBrackets (d :: before)) cs = true := by
      rw [hrest]
      constructor
      · rintro ⟨u, c, v, htext, hopen, hc⟩
        cases u with
        | nil =>
          obtain ⟨rfl, -⟩ := List.cons.inj htext
          exact .inl ⟨hopen, hc⟩
        | cons x u =>
          obtain ⟨rfl, hcs⟩ := List.cons.inj htext
          exact .inr ⟨u, c, v, hcs, by simpa using hopen, hc⟩
      · rintro (⟨hopen, hc⟩ | ⟨u, c, v, rfl, hopen, hc⟩)
        · exact ⟨[], d, cs, rfl, hopen, hc⟩
        · exact ⟨d :: u, c, v, rfl, by simpa using hopen, hc⟩
    have hnone : (isOpener d || isCloser d) = true → ¬ (d = ' ' ∨ d = '|' ∨ d = '&') := by
      rintro h (rfl | rfl | rfl) <;> cases h
    rw [hsplit, openBrackets_cons_of_plain hd, hasOperatorFrom]
    by_cases hopen : isOpener d = true
    · simp [hopen, hnone (by rw [hopen]; rfl)]
    · by_cases hclose : isCloser d = true
      · simp [hopen, hclose, hnone (by rw [hclose, Bool.or_true])]
      · simp [hopen, hclose, or_assoc]

/-- The short form of an array of items that are in short form. -/
def arrayOf (e : List Char) : List Char :=
  (if Spread e then '(' :: (e ++ [')']) else e) ++ ['[', ']']

theorem shortArray_eq_arrayOf {e : List Char} (hinked : Text.Inked e) (hplain : Plain e) :
    shortArray e = arrayOf e := by
  have hoperator : hasOperator e = true ↔ Spread e := by
    have h := @hasOperatorFrom_iff [] e hplain
    simpa [hasOperator, Spread, openBrackets] using h
  simp only [shortArray, arrayOf, hinked.trim_eq, hoperator]

theorem plain_arrayOf {e : List Char} (h : Plain e) : Plain (arrayOf e) := by
  unfold arrayOf
  rw [plain_append]
  refine ⟨?_, by decide⟩
  split
  · exact plain_cons.2 ⟨rfl, plain_append.2 ⟨h, by decide⟩⟩
  · exact h

theorem inked_arrayOf {e : List Char} (h : Text.Inked e) : Text.Inked (arrayOf e) := by
  obtain ⟨c, rest, he, hc⟩ := h.first
  unfold arrayOf
  constructor
  · split
    · exact ⟨'(', _, rfl, rfl⟩
    · exact ⟨c, _, by rw [he, List.cons_append], hc⟩
  · exact ⟨_, ']', (List.append_assoc _ ['['] [']']).symm, rfl⟩

/-! ## Words -/

theorem isAngle_of_isWordChar {c : Char} (h : Text.isWordChar c = true) : isAngle c = false := by
  rw [Bool.eq_false_iff]
  intro hangle
  simp only [isAngle, Bool.or_eq_true, beq_iff_eq] at hangle
  rcases hangle with rfl | rfl <;> cases h

/-- The codes of all blanks. -/
def blankCodes : List Nat :=
  List.range' 9 5 ++ List.range' 28 5 ++ [0x85, 0xA0, 0x1680] ++ List.range' 0x2000 11 ++
    [0x2028, 0x2029, 0x202F, 0x205F, 0x3000]

theorem isBlank_of_isWordChar {c : Char} (h : Text.isWordChar c = true) :
    Text.isBlank c = false := by
  have hcodes : ∀ n ∈ blankCodes, Text.isWordChar (Char.ofNat n) = false := by decide +kernel
  rw [Bool.eq_false_iff]
  intro hblank
  have hcode : c.toNat ∈ blankCodes := by
    simp only [Text.isBlank, Bool.or_eq_true, Bool.and_eq_true, decide_eq_true_eq,
      beq_iff_eq] at hblank
    simp only [blankCodes, List.mem_append, List.mem_range'_1, List.mem_cons, List.not_mem_nil]
    omega
  have hword := hcodes _ hcode
  rw [Char.ofNat_toNat, h] at hword
  cases hword

/-- A word of letters, digits and underscores. -/
structure Word where
  text : List Char
  ne_nil : text ≠ []
  word : ∀ c ∈ text, Text.isWordChar c = true

theorem Word.plain (w : Word) : Plain w.text := fun c hc => isAngle_of_isWordChar (w.word c hc)

theorem Word.inked (w : Word) : Text.Inked w.text :=
  Text.inked_of_forall w.ne_nil fun c hc => isBlank_of_isWordChar (w.word c hc)

/-! ## Types -/

/-- A part of a type in which nothing is to be shortened: a word, or any other text without angle
brackets that has no blanks at its ends. -/
structure Leaf where
  text : List Char
  inked : Text.Inked text
  plain : Plain text

/-- What stands between two types. -/
inductive Joint where
  | union
  | intersection
  | comma

def Joint.text : Joint → List Char
  | .union => [' ', '|', ' ']
  | .intersection => [' ', '&', ' ']
  | .comma => [',', ' ']

/-- A type as it is printed.  Types with commas between them are the parts of a tuple or the
arguments of a generic type. -/
inductive TypeExpr where
  | leaf (l : Leaf)
  | joined (joint : Joint) (left right : TypeExpr)
  | tuple (parts : TypeExpr)
  | generic (name : Word) (argument : TypeExpr)

namespace TypeExpr

/-- A word as a type. -/
def word (w : Word) : TypeExpr := .leaf ⟨w.text, w.inked, w.plain⟩

def text : TypeExpr → List Char
  | .leaf l => l.text
  | .joined joint left right => left.text ++ (joint.text ++ right.text)
  | .tuple parts => '[' :: (parts.text ++ [']'])
  | .generic name argument => name.text ++ '<' :: (argument.text ++ ['>'])

/-- The text of a type with the arrays in it, from the inside out, in short form. -/
def shortForm : TypeExpr → List Char
  | .leaf l => l.text
  | .joined joint left right => left.shortForm ++ (joint.text ++ right.shortForm)
  | .tuple parts => '[' :: (parts.shortForm ++ [']'])
  | .generic name argument =>
    if name.text = arrayName ∧ Plain argument.shortForm then arrayOf argument.shortForm
    else name.text ++ '<' :: (argument.shortForm ++ ['>'])

theorem inked_text (t : TypeExpr) : Text.Inked t.text := by
  induction t with
  | leaf l => exact l.inked
  | joined joint left right ihl ihr =>
    obtain ⟨c, rest, hfirst, hc⟩ := ihl.first
    obtain ⟨init, d, hlast, hd⟩ := ihr.last
    constructor
    · exact ⟨c, _, by rw [text, hfirst, List.cons_append], hc⟩
    · exact ⟨left.text ++ (joint.text ++ init), d, by simp [text, hlast], hd⟩
  | tuple parts =>
    exact ⟨⟨'[', _, rfl, rfl⟩, '[' :: parts.text, ']', rfl, rfl⟩
  | generic name argument =>
    obtain ⟨c, rest, hfirst, hc⟩ := name.inked.first
    constructor
    · exact ⟨c, _, by rw [text, hfirst, List.cons_append], hc⟩
    · exact ⟨name.text ++ '<' :: argument.text, '>', by simp [text], rfl⟩

/-- The first angle bracket in the text of a type opens. -/
theorem plain_or_opens (t : TypeExpr) :
    Plain t.text ∨ ∃ u v, Plain u ∧ t.text = u ++ '<' :: v := by
  induction t with
  | leaf l => exact .inl l.plain
  | joined joint left right ihl ihr =>
    have hjoint : Plain joint.text := by cases joint <;> decide
    rcases ihl with hleft | ⟨u, v, hu, hleft⟩
    · rcases ihr with hright | ⟨u, v, hu, hright⟩
      · exact .inl (plain_append.2 ⟨hleft, plain_append.2 ⟨hjoint, hright⟩⟩)
      · exact .inr ⟨left.text ++ (joint.text ++ u), v,
          plain_append.2 ⟨hleft, plain_append.2 ⟨hjoint, hu⟩⟩, by simp [text, hright]⟩
    · exact .inr ⟨u, v ++ (joint.text ++ right.text), hu, by simp [text, hleft]⟩
  | tuple parts ih =>
    rcases ih with hparts | ⟨u, v, hu, hparts⟩
    · exact .inl (plain_cons.2 ⟨rfl, plain_append.2 ⟨hparts, by decide⟩⟩)
    · exact .inr ⟨'[' :: u, v ++ [']'], plain_cons.2 ⟨rfl, hu⟩, by simp [text, hparts]⟩
  | generic name argument => exact .inr ⟨name.text, argument.text ++ ['>'], name.plain, rfl⟩

theorem not_plain_generic (name : Word) (argument : TypeExpr) :
    ¬ Plain (generic name argument).text := by
  intro h
  have hangle := h '<' (by simp [text])
  cases hangle

/-! ## A pass -/

/-- An array of plain items in short form, as a type with nothing to shorten. -/
def shortened (items : TypeExpr) (h : Plain items.text) : TypeExpr :=
  .leaf ⟨arrayOf items.text, inked_arrayOf items.inked_text, plain_arrayOf h⟩

/-- The type with all its innermost arrays in short form. -/
def pass : TypeExpr → TypeExpr
  | .leaf l => .leaf l
  | .joined joint left right => .joined joint left.pass right.pass
  | .tuple parts => .tuple parts.pass
  | .generic name argument =>
    if h : name.text = arrayName ∧ Plain argument.text then argument.shortened h.2
    else .generic name argument.pass

theorem shortForm_of_plain {t : TypeExpr} (h : Plain t.text) : t.shortForm = t.text := by
  induction t with
  | leaf l => rfl
  | joined joint left right ihl ihr =>
    obtain ⟨hleft, hrest⟩ := plain_append.1 h
    rw [shortForm, ihl hleft, ihr (plain_append.1 hrest).2, text]
  | tuple parts ih =>
    have hparts := (plain_append.1 (plain_cons.1 h).2).1
    rw [shortForm, ih hparts, text]
  | generic name argument => exact absurd h (not_plain_generic name argument)

/-- A pass does not change what the short form is. -/
theorem shortForm_pass (t : TypeExpr) : t.pass.shortForm = t.shortForm := by
  induction t with
  | leaf l => rfl
  | joined joint left right ihl ihr => rw [pass, shortForm, ihl, ihr, shortForm]
  | tuple parts ih => rw [pass, shortForm, ih, shortForm]
  | generic name argument ih =>
    rw [pass]
    split
    · next h =>
      have hitems := shortForm_of_plain h.2
      rw [shortForm, if_pos ⟨h.1, hitems.symm ▸ h.2⟩, hitems]
      rfl
    · rw [shortForm, ih, shortForm]

theorem length_shortened_lt {name : Word} {argument : TypeExpr} (hname : name.text = arrayName)
    (h : Plain argument.text) :
    (argument.shortened h).text.length < (generic name argument).text.length := by
  have hshort := length_shortArray_le argument.text
  rw [shortArray_eq_arrayOf argument.inked_text h] at hshort
  simp [shortened, text, hname, arrayName]
  omega

/-- A pass leaves the type as it is, or shortens it. -/
theorem pass_eq_or_lt (t : TypeExpr) : t.pass = t ∨ t.pass.text.length < t.text.length := by
  induction t with
  | leaf l => exact .inl rfl
  | joined joint left right ihl ihr =>
    rcases ihl with hleft | hleft
    · rcases ihr with hright | hright
      · exact .inl (by rw [pass, hleft, hright])
      · refine .inr ?_
        simp only [pass, hleft, text, List.length_append]
        omega
    · have hright : right.pass.text.length ≤ right.text.length := by
        rcases ihr with hright | hright
        · exact Nat.le_of_eq (by rw [hright])
        · exact Nat.le_of_lt hright
      refine .inr ?_
      simp only [pass, text, List.length_append]
      omega
  | tuple parts ih =>
    rcases ih with hparts | hparts
    · exact .inl (by rw [pass, hparts])
    · refine .inr ?_
      simp only [pass, text, List.length_cons, List.length_append]
      omega
  | generic name argument ih =>
    rw [pass]
    split
    · next h => exact .inr (length_shortened_lt h.1 h.2)
    · rcases ih with hitems | hitems
      · exact .inl (by rw [hitems])
      · refine .inr ?_
        simp only [text, List.length_cons, List.length_append]
        omega

/-- A type that a pass does not change is in short form. -/
theorem shortForm_of_pass_eq {t : TypeExpr} (h : t.pass = t) : t.shortForm = t.text := by
  induction t with
  | leaf l => rfl
  | joined joint left right ihl ihr =>
    obtain ⟨-, hleft, hright⟩ := TypeExpr.joined.inj h
    rw [shortForm, ihl hleft, ihr hright, text]
  | tuple parts ih => rw [shortForm, ih (TypeExpr.tuple.inj h), text]
  | generic name argument ih =>
    rw [pass] at h
    split at h
    · cases h
    · next hnot =>
      have hitems := ih (TypeExpr.generic.inj h).2
      rw [shortForm, hitems, if_neg hnot, text]

end TypeExpr

/-! ## A round over the text of a type -/

/-- What may follow a part of a type: a character that neither goes on with a word nor opens an
angle bracket, if there is any. -/
def Parted (rest : List Char) : Prop :=
  ∀ c ∈ rest.head?, Text.isWordChar c = false ∧ c ≠ '<'

theorem parted_cons {c : Char} (hword : Text.isWordChar c = false) (hangle : c ≠ '<')
    (rest : List Char) : Parted (c :: rest) := by
  intro d hd
  obtain rfl : c = d := by simpa using hd
  exact ⟨hword, hangle⟩

/-- No array begins in a plain text in front of a place that parts. -/
theorem innermostArray?_append_of_parted {b rest : List Char} (hb : Plain b) (hrest : Parted rest) :
    innermostArray? (b ++ rest) = none := by
  rw [Option.eq_none_iff_forall_not_mem]
  rintro ⟨items, after⟩ h
  obtain ⟨htext, -⟩ := innermostArray?_eq_some_iff.1 h
  -- The rest would begin in the name of the array or with its bracket, or the bracket would be in
  -- the plain text.
  rcases List.append_eq_append_iff.1 htext with ⟨x, hname, hx⟩ | ⟨x, hx, hname⟩
  · cases x with
    | nil => exact (hrest '<' (by simp [hx])).2 rfl
    | cons c x =>
      have hword : ∀ d ∈ arrayName, Text.isWordChar d = true := List.all_eq_true.1 rfl
      have hfirst := (hrest c (by simp [hx])).1
      rw [hword c (by simp [hname])] at hfirst
      cases hfirst
  · cases x with
    | nil =>
      obtain rfl : '<' :: (items ++ '>' :: after) = rest := hname
      exact (hrest '<' rfl).2 rfl
    | cons c x =>
      obtain ⟨rfl, -⟩ := List.cons.inj hname
      have hangle := hb '<' (by simp [hx])
      cases hangle

theorem collapsed_of_parted (inWord : Bool) {rest : List Char} (h : Parted rest) :
    collapsed inWord rest = collapsed false rest := by
  cases rest with
  | nil => rfl
  | cons c rest =>
    have hne : c ≠ 'A' := by
      rintro rfl
      have hword := (h 'A' rfl).1
      cases hword
    rw [collapsed_cons_of_ne inWord hne, collapsed_cons_of_ne false hne]

theorem collapsed_plain_append {u rest : List Char} (hu : Plain u) (hrest : Parted rest) :
    collapsed false (u ++ rest) = u ++ collapsed false rest := by
  have hnone : ∀ a b, u = a ++ b → b ≠ [] → inWordAfter false a = false →
      innermostArray? (b ++ rest) = none := by
    intro a b hsplit _ _
    exact innermostArray?_append_of_parted (plain_append.1 (hsplit ▸ hu)).2 hrest
  rw [collapsed_append hnone, collapsed_of_parted _ hrest]

theorem collapsed_joint_append (joint : Joint) (rest : List Char) :
    collapsed false (joint.text ++ rest) = joint.text ++ collapsed false rest := by
  have hblank : Text.isWordChar ' ' = false := rfl
  cases joint with
  | union =>
    have hbar : Text.isWordChar '|' = false := rfl
    simp [Joint.text, collapsed_cons_of_ne, hblank, hbar]
  | intersection =>
    have hand : Text.isWordChar '&' = false := rfl
    simp [Joint.text, collapsed_cons_of_ne, hblank, hand]
  | comma =>
    have hcomma : Text.isWordChar ',' = false := rfl
    simp [Joint.text, collapsed_cons_of_ne, hblank, hcomma]

theorem parted_joint_append (joint : Joint) (rest : List Char) : Parted (joint.text ++ rest) := by
  cases joint with
  | union => exact parted_cons rfl (by decide) _
  | intersection => exact parted_cons rfl (by decide) _
  | comma => exact parted_cons rfl (by decide) _

theorem inWordAfter_word {u : List Char} (hu : ∀ c ∈ u, Text.isWordChar c = true) (hne : u ≠ []) :
    inWordAfter false u = true := by
  rw [← Bool.not_eq_false, inWordAfter_eq_false_iff]
  intro h
  have hlast := h _ (List.getLast?_eq_some_getLast hne)
  rw [hu _ (List.getLast_mem hne)] at hlast
  cases hlast

/-- The name of a generic type stays, if it and what follows are no array. -/
theorem collapsed_name_append (name : Word) {rest : List Char}
    (h : innermostArray? (name.text ++ '<' :: rest) = none) :
    collapsed false (name.text ++ '<' :: rest) = name.text ++ '<' :: collapsed false rest := by
  have hnone : ∀ a b, name.text = a ++ b → b ≠ [] → inWordAfter false a = false →
      innermostArray? (b ++ '<' :: rest) = none := by
    intro a b hsplit _ ha
    by_cases hnil : a = []
    · rwa [hsplit, hnil] at h
    · have hword : ∀ c ∈ a, Text.isWordChar c = true := fun c hc =>
        name.word c (hsplit ▸ List.mem_append_left b hc)
      rw [inWordAfter_word hword hnil] at ha
      cases ha
  have hangle : Text.isWordChar '<' = false := rfl
  rw [collapsed_append hnone, collapsed_cons_of_ne _ (by decide), hangle]

/-- A generic type is an innermost array at the start of a text only if it is an array of plain
items. -/
theorem innermostArray?_generic {name : Word} {argument : TypeExpr}
    (h : ¬ (name.text = arrayName ∧ Plain argument.text)) (rest : List Char) :
    innermostArray? (name.text ++ '<' :: (argument.text ++ '>' :: rest)) = none := by
  rw [Option.eq_none_iff_forall_not_mem]
  rintro ⟨items, after⟩ hsome
  obtain ⟨htext, -, hitems⟩ := innermostArray?_eq_some_iff.1 hsome
  have harray : Plain arrayName := by decide
  obtain ⟨hname, -, hrest⟩ := eq_of_plain_append name.plain harray rfl rfl htext
  rcases argument.plain_or_opens with hplain | ⟨u, v, hu, hopens⟩
  · exact h ⟨hname, hplain⟩
  · rw [hopens, List.append_assoc, List.cons_append] at hrest
    obtain ⟨-, hangle, -⟩ := eq_of_plain_append hu hitems rfl rfl hrest
    cases hangle

/-- **A round makes one pass**, whatever follows the type. -/
theorem collapsed_text_append (t : TypeExpr) {rest : List Char} (hrest : Parted rest) :
    collapsed false (t.text ++ rest) = t.pass.text ++ collapsed false rest := by
  induction t generalizing rest with
  | leaf l => exact collapsed_plain_append l.plain hrest
  | joined joint left right ihl ihr =>
    simp only [TypeExpr.text, TypeExpr.pass, List.append_assoc]
    rw [ihl (parted_joint_append joint _), collapsed_joint_append, ihr hrest]
  | tuple parts ih =>
    have hopen : Text.isWordChar '[' = false := rfl
    have hclose : Text.isWordChar ']' = false := rfl
    simp only [TypeExpr.text, TypeExpr.pass, List.cons_append, List.append_assoc, List.nil_append]
    rw [collapsed_cons_of_ne false (by decide), hopen, ih (parted_cons rfl (by decide) rest),
      collapsed_cons_of_ne false (by decide), hclose]
  | generic name argument ih =>
    have hclose : Text.isWordChar '>' = false := rfl
    simp only [TypeExpr.text, TypeExpr.pass, List.cons_append, List.append_assoc, List.nil_append]
    -- The pass and the round decide alike whether this is an innermost array.
    split
    · next h =>
      rw [h.1, collapsed_array argument.inked_text.ne_nil h.2,
        shortArray_eq_arrayOf argument.inked_text h.2]
      rfl
    · next h =>
      rw [collapsed_name_append name (innermostArray?_generic h rest),
        ih (parted_cons rfl (by decide) rest), collapsed_cons_of_ne false (by decide), hclose]
      simp [TypeExpr.text]

theorem collapseOnce_text (t : TypeExpr) : collapseOnce t.text = t.pass.text := by
  have hround := @collapsed_text_append t [] (by simp [Parted])
  rwa [List.append_nil, collapsed_nil, List.append_nil] at hround

/-- The rounds compute the short form of a type. -/
theorem collapseArrays_text (t : TypeExpr) : collapseArrays t.text = t.shortForm := by
  induction hsize : t.text.length using Nat.strongRecOn generalizing t with
  | ind size ih =>
    have hround := collapseOnce_text t
    rcases t.pass_eq_or_lt with hpass | hshorter
    · rw [hpass] at hround
      rw [collapseArrays_of_fixed hround, t.shortForm_of_pass_eq hpass]
    · have hchanged : collapseOnce t.text ≠ t.text := by
        rw [hround]
        intro h
        rw [h] at hshorter
        exact Nat.lt_irrefl _ hshorter
      rw [collapseArrays_of_changed hchanged, hround, ih _ (hsize ▸ hshorter) t.pass rfl,
        t.shortForm_pass]

/-- **The rounds end, and they compute the short form of a type.**  Every text reaches, by rounds
of which each shortens it, a text without an array that could be shortened. -/
theorem collapseArrays_shortens :
    (∀ cs : List Char, (collapseOnce cs ≠ cs → (collapseOnce cs).length < cs.length) ∧
      (∃ n ≤ cs.length, collapseArrays cs = collapseOnce^[n] cs ∧
        ∀ i < n, (collapseOnce^[i + 1] cs).length < (collapseOnce^[i] cs).length) ∧
      collapseOnce (collapseArrays cs) = collapseArrays cs ∧ ¬ HasArray (collapseArrays cs)) ∧
    ∀ t : TypeExpr, collapseArrays t.text = t.shortForm := by
  refine ⟨fun cs => ?_, collapseArrays_text⟩
  obtain ⟨n, hn, hresult, hshorter, hdone⟩ := exists_rounds cs
  exact ⟨length_collapseOnce_lt_of_ne, ⟨n, hn, hresult, hshorter⟩,
    (collapseOnce_eq_self_iff _).2 hdone, hdone⟩

/-- Arrays of arrays, an array of a tuple in a generic type of a similar name, and an array of a
generic type, which stays. -/
theorem collapseArrays_shortens_of_nested_arrays :
    let cs := "Array<Array<A | B>> & ReadonlyArray<Array<[A, B]>> | Array<Map<A, Array<B>>>".toList
    ∃ t : TypeExpr, t.text = cs ∧ collapseOnce cs ≠ cs ∧ (collapseOnce cs).length < cs.length ∧
      t.shortForm = "(A | B)[][] & ReadonlyArray<[A, B][]> | Array<Map<A, B[]>>".toList ∧
      collapseArrays cs = t.shortForm := by
  intro cs
  let array : Word := ⟨arrayName, by decide, List.all_eq_true.1 rfl⟩
  let readonly : Word := ⟨"ReadonlyArray".toList, by decide, List.all_eq_true.1 rfl⟩
  let map : Word := ⟨"Map".toList, by decide, List.all_eq_true.1 rfl⟩
  let a := TypeExpr.word ⟨['A'], by decide, List.all_eq_true.1 rfl⟩
  let b := TypeExpr.word ⟨['B'], by decide, List.all_eq_true.1 rfl⟩
  let t : TypeExpr := .joined .union
    (.joined .intersection (.generic array (.generic array (.joined .union a b)))
      (.generic readonly (.generic array (.tuple (.joined .comma a b)))))
    (.generic array (.generic map (.joined .comma a (.generic array b))))
  have htext : t.text = cs := by decide +kernel
  have hchanged : collapseOnce cs ≠ cs := by decide +kernel
  exact ⟨t, htext, hchanged, (collapseArrays_shortens.1 cs).1 hchanged, by decide +kernel,
    htext ▸ collapseArrays_shortens.2 t⟩

end TypeMismatch.Summary
