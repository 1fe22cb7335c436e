import TypeMismatch.Proofs.Summary.Width

/-!
# The summary of an object type

The names in a text are found without an anchor: a name may begin anywhere and counts when a colon
follows it.  In an object type whose property types hold no colon every colon is behind a name, and
a semicolon or a brace stands between a type and the next name, so the names that are found are the
names of the properties from their first characters (`readNames_objectText`).  Blanks behind
braces, colons and semicolons are no part of this.

Each property takes a colon and a character for its type besides its name, which is as much room as
its name needs in a list, so the names are never longer than the text (`length_inBraces_names_le`)
and an object type is always shown by them (`summarize_objectType`).
-/

namespace TypeMismatch.Summary

/-! ## Object types -/

/-- A letter of ASCII, an underscore or a dollar sign. -/
def beginsIdentifier (c : Char) : Bool := c.isAlpha || c == '_' || c == '$'

/-- One of these, or a digit of ASCII. -/
def continuesIdentifier (c : Char) : Bool := beginsIdentifier c || c.isDigit

/-- Is the text an identifier in ASCII? -/
def isIdentifier : List Char → Bool
  | [] => false
  | c :: rest => beginsIdentifier c && rest.all continuesIdentifier

/-- A property of an object type as it may be printed: blanks, its name, a question mark if it is
optional, a colon, and its type with any blanks around it. -/
structure Property where
  gap : List Char
  name : List Char
  optional : Bool
  type : List Char
  gap_blank : ∀ c ∈ gap, Text.isBlank c = true
  name_identifier : isIdentifier name = true
  type_plain : ':' ∉ type
  type_inked : ∃ c ∈ type, Text.isBlank c = false

/-- What stands behind the last property: nothing, or a semicolon and blanks. -/
inductive Ending where
  | bare
  | semicolon (gap : List Char) (gap_blank : ∀ c ∈ gap, Text.isBlank c = true)

/-- An object type that has a property. -/
structure ObjectType where
  first : Property
  others : List Property
  ending : Ending

namespace Property

/-- The question mark of an optional property. -/
def mark (p : Property) : List Char := if p.optional then ['?'] else []

/-- The name with its question mark and its colon. -/
def head (p : Property) : List Char := p.name ++ (p.mark ++ [':'])

/-- The property behind the blanks in front of it. -/
def text (p : Property) : List Char := p.gap ++ (p.head ++ p.type)

end Property

def Ending.text : Ending → List Char
  | .bare => []
  | .semicolon gap _ => ';' :: gap

namespace ObjectType

def properties (o : ObjectType) : List Property := o.first :: o.others

/-- The properties with semicolons between them, in braces. -/
def text (o : ObjectType) : List Char :=
  '\x7b' :: (Text.joinWith [';'] (o.properties.map Property.text) ++ o.ending.text ++ ['\x7d'])

/-- The names of the properties, each once, in the order of their first appearance. -/
def names (o : ObjectType) : List (List Char) := (o.properties.map Property.name).eraseDups

end ObjectType

/-- The first three names in braces, and dots for others. -/
def inBraces (names : List (List Char)) : List Char :=
  ['\x7b', ' '] ++ Text.joinWith [',', ' '] (names.take 3) ++
    (if 3 < names.length then [',', ' ', '.', '.', '.'] else []) ++ [' ', '\x7d']

/-! ## Reading names -/

/-- The names of members in a text, as often as they occur. -/
def readNames (cs : List Char) : List (List Char) := memberNamesFrom cs.length cs

theorem length_of_afterColon? {cs next : List Char} (h : afterColon? cs = some next) :
    next.length < cs.length :=
  (colon_suffix_of_afterColon? h).length_le

/-- Once the fuel is enough for all characters, it does not matter how much it is. -/
theorem memberNamesFrom_eq_of_length_le {m n : Nat} {cs : List Char} (hm : cs.length ≤ m)
    (hn : cs.length ≤ n) : memberNamesFrom m cs = memberNamesFrom n cs := by
  induction m generalizing n cs with
  | zero =>
    rw [List.eq_nil_of_length_eq_zero (Nat.le_zero.1 hm)]
    cases n <;> rfl
  | succ m ih =>
    cases cs with
    | nil => cases n <;> rfl
    | cons c cs =>
      obtain ⟨n, rfl⟩ : ∃ k, n = k + 1 := Nat.exists_eq_succ_of_ne_zero (by simp at hn; omega)
      have hm : cs.length ≤ m := Nat.le_of_succ_le_succ hm
      have hn : cs.length ≤ n := Nat.le_of_succ_le_succ hn
      have hafter := (List.dropWhile_suffix (l := cs) isNamePart).length_le
      rw [memberNamesFrom, memberNamesFrom]
      split
      · dsimp only
        split
        · next next hnext =>
          have hlength := length_of_afterColon? hnext
          rw [ih (n := n) (by omega) (by omega)]
        · exact ih (by omega) (by omega)
      · exact ih hm hn

@[simp] theorem readNames_nil : readNames [] = [] := rfl

theorem readNames_cons_of_not_start {c : Char} (hc : isNameStart c = false) (cs : List Char) :
    readNames (c :: cs) = readNames cs := by
  rw [readNames, List.length_cons, memberNamesFrom, if_neg (by simp [hc])]
  rfl

theorem readNames_run {c : Char} (hc : isNameStart c = true) {run rest : List Char}
    (hrun : ∀ d ∈ run, isNamePart d = true) (hrest : ∀ d ∈ rest.head?, isNamePart d = false) :
    readNames (c :: (run ++ rest)) =
      match afterColon? rest with
      | some next => (c :: run) :: readNames next
      | none => readNames rest := by
  have htake : rest.takeWhile isNamePart = [] := by
    cases rest with
    | nil => rfl
    | cons d rest => simp [hrest d rfl]
  have hdrop : rest.dropWhile isNamePart = rest := by
    cases rest with
    | nil => rfl
    | cons d rest => simp [hrest d rfl]
  rw [readNames, List.length_cons, memberNamesFrom, if_pos hc]
  simp only [List.takeWhile_append_of_pos hrun, List.dropWhile_append_of_pos hrun, htake, hdrop,
    List.append_nil]
  cases hnext : afterColon? rest with
  | none => exact memberNamesFrom_eq_of_length_le (by simp) (Nat.le_refl _)
  | some next =>
    have hlength := length_of_afterColon? hnext
    have hfuel : next.length ≤ (run ++ rest).length := by
      rw [List.length_append]
      omega
    exact congrArg _ (memberNamesFrom_eq_of_length_le hfuel (Nat.le_refl _))

/-- A character that is no part of a name and neither of the two that may follow one. -/
structure Parts (d : Char) : Prop where
  not_part : isNamePart d = false
  ne_colon : d ≠ ':'
  ne_question : d ≠ '?'

theorem Parts.not_start {d : Char} (h : Parts d) : isNameStart d = false := by
  cases hd : isNameStart d with
  | false => rfl
  | true =>
    have hpart := isNamePart_of_isNameStart hd
    rw [h.not_part] at hpart
    cases hpart

theorem afterColon?_eq_none {u : List Char} {d : Char} (hu : ':' ∉ u) (hd : Parts d)
    (rest : List Char) : afterColon? (u ++ d :: rest) = none := by
  have hcolon := hd.ne_colon
  have hquestion := hd.ne_question
  rcases u with _ | ⟨x, _ | ⟨y, u⟩⟩
  · simp [afterColon?, hcolon, hquestion]
  · have hx : x ≠ ':' := by simpa [eq_comm] using hu
    simp [afterColon?, hx, hcolon]
  · obtain ⟨hx, hy⟩ : x ≠ ':' ∧ y ≠ ':' := by
      simp only [List.mem_cons, not_or] at hu
      exact ⟨Ne.symm hu.1, Ne.symm hu.2.1⟩
    simp [afterColon?, hx, hy]

/-- A run of characters of names ends at the latest in front of a parting character. -/
theorem not_part_of_head?_dropWhile (u : List Char) {d : Char} (hd : Parts d) (rest : List Char) :
    ∀ x ∈ (u.dropWhile isNamePart ++ d :: rest).head?, isNamePart x = false := by
  intro x hx
  cases hdrop : u.dropWhile isNamePart with
  | nil =>
    rw [hdrop] at hx
    obtain rfl : d = x := by simpa using hx
    exact hd.not_part
  | cons y after =>
    rw [hdrop] at hx
    obtain rfl : y = x := by simpa using hx
    have hy := List.head?_dropWhile_not isNamePart u
    simpa [hdrop] using hy

/-- No name is found in a text without a colon in front of a parting character. -/
theorem readNames_append_of_notMem {u : List Char} {d : Char} (hu : ':' ∉ u) (hd : Parts d)
    (rest : List Char) : readNames (u ++ d :: rest) = readNames rest := by
  match u with
  | [] => exact readNames_cons_of_not_start hd.not_start rest
  | c :: u =>
    have hu : ':' ∉ u := fun h => hu (List.mem_cons_of_mem c h)
    cases hc : isNameStart c with
    | false =>
      rw [List.cons_append, readNames_cons_of_not_start hc]
      exact readNames_append_of_notMem hu hd rest
    | true =>
      have hafter : ':' ∉ u.dropWhile isNamePart := fun h => hu ((List.dropWhile_suffix _).subset h)
      have hhead := not_part_of_head?_dropWhile u hd rest
      have hsplit : u ++ d :: rest =
          u.takeWhile isNamePart ++ (u.dropWhile isNamePart ++ d :: rest) := by
        rw [← List.append_assoc, List.takeWhile_append_dropWhile]
      rw [List.cons_append, hsplit, readNames_run hc (List.all_eq_true.1 List.all_takeWhile) hhead,
        afterColon?_eq_none hafter hd]
      exact readNames_append_of_notMem hafter hd rest
termination_by u.length
decreasing_by
  · simp
  · exact Nat.lt_succ_of_le (List.dropWhile_suffix _).length_le

/-! ## Identifiers -/

theorem isAsciiLetter_of_isAlpha {c : Char} (h : c.isAlpha = true) :
    Text.isAsciiLetter c = true := by
  have hcode := (Text.toNat_of_isAlpha h).symm
  simpa [Text.isAsciiLetter, Char.le_def, UInt32.le_iff_toNat_le] using hcode

theorem isNameStart_of_beginsIdentifier {c : Char} (h : beginsIdentifier c = true) :
    isNameStart c = true := by
  simp only [beginsIdentifier, Bool.or_eq_true, beq_iff_eq] at h
  rcases h with (h | rfl) | rfl
  · simp [isNameStart, isAsciiLetter_of_isAlpha h]
  · rfl
  · rfl

theorem isNamePart_of_continuesIdentifier {c : Char} (h : continuesIdentifier c = true) :
    isNamePart c = true := by
  rw [continuesIdentifier, Bool.or_eq_true] at h
  rcases h with h | h
  · exact isNamePart_of_isNameStart (isNameStart_of_beginsIdentifier h)
  · have hcode := Text.toNat_of_isDigit h
    have hdigit : Text.isAsciiDigit c = true := by
      simpa [Text.isAsciiDigit, Char.le_def, UInt32.le_iff_toNat_le] using hcode
    have hascii : c.toNat < 128 := by omega
    simp [isNamePart, Text.isWordChar, Text.isAlphanumeric, hascii, hdigit]

theorem isBlank_of_continuesIdentifier {c : Char} (h : continuesIdentifier c = true) :
    Text.isBlank c = false := by
  simp only [continuesIdentifier, beginsIdentifier, Bool.or_eq_true, beq_iff_eq] at h
  rcases h with ((h | rfl) | rfl) | h
  · have hcode := Text.toNat_of_isAlpha h
    exact Text.isBlank_of_visible (by omega) (by omega)
  · rfl
  · rfl
  · have hcode := Text.toNat_of_isDigit h
    exact Text.isBlank_of_visible (by omega) (by omega)

theorem isBlank_of_isNameStart {c : Char} (h : isNameStart c = true) : Text.isBlank c = false := by
  simp only [isNameStart, Bool.or_eq_true, beq_iff_eq] at h
  rcases h with (rfl | rfl) | h
  · rfl
  · rfl
  · have hcode : (97 ≤ c.toNat ∧ c.toNat ≤ 122) ∨ (65 ≤ c.toNat ∧ c.toNat ≤ 90) := by
      simpa [Text.isAsciiLetter, Char.le_def, UInt32.le_iff_toNat_le] using h
    exact Text.isBlank_of_visible (by omega) (by omega)

theorem readNames_blank_append {w : List Char} (hw : ∀ c ∈ w, Text.isBlank c = true)
    (cs : List Char) : readNames (w ++ cs) = readNames cs := by
  induction w with
  | nil => rfl
  | cons c w ih =>
    have hrest := ih fun d hd => hw d (List.mem_cons_of_mem c hd)
    have hc : isNameStart c = false :=
      Text.eq_false_of_isBlank (fun _ => isBlank_of_isNameStart) (hw c List.mem_cons_self)
    rw [List.cons_append, readNames_cons_of_not_start hc, hrest]

/-! ## The names of an object type -/

theorem parts_semicolon : Parts ';' := ⟨rfl, by decide, by decide⟩

theorem parts_brace : Parts '\x7d' := ⟨rfl, by decide, by decide⟩

namespace Property

variable (p : Property)

theorem exists_name : ∃ c run, p.name = c :: run ∧ beginsIdentifier c = true ∧
    ∀ d ∈ run, continuesIdentifier d = true := by
  have hname := p.name_identifier
  cases hp : p.name with
  | nil =>
    rw [hp] at hname
    cases hname
  | cons c run =>
    rw [hp, isIdentifier, Bool.and_eq_true, List.all_eq_true] at hname
    exact ⟨c, run, rfl, hname.1, hname.2⟩

theorem name_ink : ∀ c ∈ p.name, Text.isBlank c = false := by
  obtain ⟨c, run, hname, hc, hrun⟩ := p.exists_name
  intro d hd
  rw [hname, List.mem_cons] at hd
  rcases hd with rfl | hd
  · exact isBlank_of_continuesIdentifier (by rw [continuesIdentifier, hc, Bool.true_or])
  · exact isBlank_of_continuesIdentifier (hrun d hd)

theorem mark_ink : ∀ c ∈ p.mark, Text.isBlank c = false := by
  intro c hc
  unfold mark at hc
  split at hc
  · rw [List.mem_singleton.1 hc]
    rfl
  · cases hc

theorem head_ink : ∀ c ∈ p.head, Text.isBlank c = false := by
  intro c hc
  rcases List.mem_append.1 hc with hc | hc
  · exact p.name_ink c hc
  · rcases List.mem_append.1 hc with hc | hc
    · exact p.mark_ink c hc
    · rw [List.mem_singleton.1 hc]
      rfl

/-- A name in front of a colon is found from its first character. -/
theorem readNames_head_append (rest : List Char) :
    readNames (p.head ++ rest) = p.name :: readNames rest := by
  obtain ⟨c, run, hname, hc, hrun⟩ := p.exists_name
  have hhead : ∀ d ∈ (p.mark ++ ':' :: rest).head?, isNamePart d = false := by
    intro d hd
    unfold mark at hd
    split at hd
    · obtain rfl : '?' = d := by simpa using hd
      rfl
    · obtain rfl : ':' = d := by simpa using hd
      rfl
  have hcolon : afterColon? (p.mark ++ ':' :: rest) = some rest := by
    unfold mark
    split <;> rfl
  have htext : p.head ++ rest = c :: (run ++ (p.mark ++ ':' :: rest)) := by
    simp [head, hname]
  rw [htext, readNames_run (isNameStart_of_beginsIdentifier hc)
    (fun d hd => isNamePart_of_continuesIdentifier (hrun d hd)) hhead, hcolon, hname]

/-- The blanks around a property do not matter, and nothing in its type is taken for a name. -/
theorem readNames_text_append (gap : Bool) {d : Char} (hd : Parts d)
    (hink : Text.isBlank d = false) (rest : List Char) :
    readNames (Text.singleSpacedFrom gap (p.text ++ d :: rest)) =
      p.name :: readNames (Text.singleSpacedFrom false rest) := by
  obtain ⟨before, hblank, hfirst⟩ := Text.exists_singleSpacedFrom_blank_append gap p.gap_blank
  obtain ⟨type, htype, hlast⟩ := Text.exists_singleSpacedFrom_append false p.type
  have hcolon : ':' ∉ type := by
    intro h
    have hkept : ':' ∈ Text.withoutBlanks p.type := htype ▸ List.mem_filter.2 ⟨h, rfl⟩
    exact p.type_plain (List.mem_filter.1 hkept).1
  have htext : p.text ++ d :: rest = p.gap ++ (p.head ++ (p.type ++ ([d] ++ rest))) := by
    simp [text]
  rw [htext, hfirst _ _ (by simp [head]) p.head_ink,
    hlast [d] rest (List.cons_ne_nil d []) (by simpa using hink), readNames_blank_append hblank,
    readNames_head_append, List.singleton_append, readNames_append_of_notMem hcolon hd]

end Property

/-- The names of all properties, in front of a character that parts. -/
theorem readNames_properties (gap : Bool) {ps : List Property} (hne : ps ≠ []) {d : Char}
    (hd : Parts d) (hink : Text.isBlank d = false) (rest : List Char) :
    readNames (Text.singleSpacedFrom gap
        (Text.joinWith [';'] (ps.map Property.text) ++ d :: rest)) =
      ps.map Property.name ++ readNames (Text.singleSpacedFrom false rest) := by
  induction ps generalizing gap with
  | nil => exact absurd rfl hne
  | cons p ps ih =>
    cases ps with
    | nil => exact p.readNames_text_append gap hd hink rest
    | cons q ps =>
      have hrest := ih false (List.cons_ne_nil q ps)
      have htext : Text.joinWith [';'] ((p :: q :: ps).map Property.text) ++ d :: rest =
          p.text ++ ';' :: (Text.joinWith [';'] ((q :: ps).map Property.text) ++ d :: rest) := by
        simp [Text.joinWith]
      rw [htext, p.readNames_text_append gap parts_semicolon rfl, hrest]
      rfl

theorem readNames_objectText (o : ObjectType) :
    readNames (Text.singleSpacedFrom false o.text) = o.properties.map Property.name := by
  have hne : o.properties ≠ [] := List.cons_ne_nil _ _
  have hbrace : isNameStart '\x7b' = false := rfl
  rw [ObjectType.text, Text.singleSpacedFrom_ink false rfl, Text.spaceIf_false, List.nil_append,
    readNames_cons_of_not_start hbrace]
  cases o.ending with
  | bare =>
    have h := readNames_properties false hne parts_brace rfl []
    simpa [Ending.text] using h
  | semicolon gap hgap =>
    obtain ⟨spaced, hblank, hspaced⟩ := Text.exists_singleSpacedFrom_blank_append false hgap
    have hclose : readNames (Text.singleSpacedFrom false (gap ++ ['\x7d'])) = [] := by
      have htext := hspaced ['\x7d'] [] (List.cons_ne_nil _ _) (by simp; rfl)
      rw [List.append_nil] at htext
      rw [htext, readNames_blank_append hblank]
      rfl
    have h := readNames_properties false hne parts_semicolon rfl (gap ++ ['\x7d'])
    simpa [Ending.text, hclose] using h

/-! ## The room for the names -/

theorem length_labelled_cons (name : List Char) (names : List (List Char)) :
    (labelled (name :: names)).length = name.length + 1 + (labelled names).length := by
  simp [labelled]
  omega

/-- A property takes its name, a colon and at least one character for its type. -/
theorem Property.le_length_withoutBlanks_text (p : Property) :
    p.name.length + 2 ≤ (Text.withoutBlanks p.text).length := by
  obtain ⟨c, hc, hink⟩ := p.type_inked
  have htype : 0 < (Text.withoutBlanks p.type).length :=
    List.length_pos_of_mem (List.mem_filter.2 ⟨hc, by rw [hink]; rfl⟩)
  have hhead : p.name.length + 1 ≤ p.head.length := by
    simp [Property.head]
  simp only [Property.text, Text.withoutBlanks_append, List.length_append,
    Text.withoutBlanks_eq_self p.head_ink]
  omega

theorem le_length_withoutBlanks_properties {ps : List Property} (hne : ps ≠ []) :
    (labelled (ps.map Property.name)).length + 2 * ps.length ≤
      (Text.withoutBlanks (Text.joinWith [';'] (ps.map Property.text))).length + 1 := by
  induction ps with
  | nil => exact absurd rfl hne
  | cons p ps ih =>
    have hp := p.le_length_withoutBlanks_text
    rw [List.map_cons, length_labelled_cons, List.length_cons]
    cases ps with
    | nil =>
      simp only [List.map_cons, List.map_nil, Text.joinWith, labelled, List.flatMap_nil,
        List.length_nil]
      omega
    | cons q ps =>
      have hrest := ih (List.cons_ne_nil q ps)
      have hsemicolon : (Text.withoutBlanks [';']).length = 1 := rfl
      simp only [List.map_cons, Text.joinWith, Text.withoutBlanks_append, List.length_append,
        hsemicolon] at hrest ⊢
      omega

/-- Names in braces take no more than properties with these names. -/
theorem length_inBraces_le {names : List (List Char)} (hne : names ≠ []) :
    (inBraces names).length ≤ (labelled names).length + 2 * names.length + 1 := by
  rcases names with _ | ⟨a, _ | ⟨b, _ | ⟨c, _ | ⟨d, names⟩⟩⟩⟩
  · exact absurd rfl hne
  · simp [inBraces, Text.joinWith, labelled]
  · simp [inBraces, Text.joinWith, labelled]
    omega
  · simp [inBraces, Text.joinWith, labelled]
    omega
  · simp [inBraces, Text.joinWith, labelled]
    omega

namespace ObjectType

variable (o : ObjectType)

theorem properties_ne_nil : o.properties ≠ [] := List.cons_ne_nil _ _

theorem names_ne_nil : o.names ≠ [] := by
  rw [names, properties, List.map_cons, List.eraseDups_cons]
  exact List.cons_ne_nil _ _

theorem length_inBraces_names_le :
    (inBraces o.names).length ≤ (Text.singleSpacedFrom false o.text).length := by
  have hshown := length_inBraces_le o.names_ne_nil
  have hdistinct := eraseDups_sublist (o.properties.map Property.name)
  have hlabels : (labelled o.names).length ≤ (labelled (o.properties.map Property.name)).length :=
    (hdistinct.flatMap (· ++ [':'])).length_le
  have hnumber : o.names.length ≤ o.properties.length := by
    have hle := hdistinct.length_le
    rwa [List.length_map] at hle
  have hroom := le_length_withoutBlanks_properties o.properties_ne_nil
  have hink : (Text.withoutBlanks o.text).length ≤ (Text.singleSpacedFrom false o.text).length := by
    rw [← Text.withoutBlanks_singleSpacedFrom false]
    exact List.length_filter_le _ _
  have htext : (Text.withoutBlanks
      (Text.joinWith [';'] (o.properties.map Property.text))).length + 2 ≤
        (Text.withoutBlanks o.text).length := by
    have hclose : Text.withoutBlanks ['\x7d'] = ['\x7d'] := rfl
    rw [text, Text.withoutBlanks_cons_of_ink rfl, Text.withoutBlanks_append,
      Text.withoutBlanks_append, hclose]
    simp only [List.length_cons, List.length_append, List.length_nil]
    omega
  omega

end ObjectType

/-! ## Summaries -/

theorem byNames_eq_inBraces (cs : List Char) : byNames cs = inBraces (memberNames cs) := by
  by_cases hmore : 3 < (memberNames cs).length <;>
    simp [byNames, firstItems, inBraces, maxItems, ellipsis, hmore]

/-- What is done with a text that opens with a brace and names a member. -/
theorem shorten_of_opensAsObject {cs : List Char} (h : OpensAsObject cs) :
    shorten cs = byNames cs := by
  simp [shorten, h.1, ofObject?, h.2, byNames]

/-- **An object type is shown by its first three names**, whatever blanks stand around its
properties and their types. -/
theorem summarize_objectType {text : String} {o : ObjectType}
    (htext : Text.trim text.toList = o.text) (hlong : 25 < o.text.length) :
    summarize text = String.ofList (inBraces o.names) := by
  have hlong : 25 < (Text.trim text.toList).length := by rwa [htext]
  have hline : line text.toList = Text.singleSpacedFrom false o.text := by rw [line, htext]
  have hnames : memberNames (line text.toList) = o.names := by
    rw [hline]
    exact congrArg List.eraseDups (readNames_objectText o)
  have hopens : OpensAsObject (line text.toList) := by
    refine ⟨?_, hnames ▸ o.names_ne_nil⟩
    rw [head?_line hlong, htext]
    rfl
  have hshort : shorten (line text.toList) = inBraces o.names := by
    rw [shorten_of_opensAsObject hopens, byNames_eq_inBraces, hnames]
  have hfits : (inBraces o.names).length ≤ (line text.toList).length := by
    rw [hline]
    exact o.length_inBraces_names_le
  rw [summarize, summary_of_long hlong, hshort, if_neg (Nat.not_lt.2 hfits)]

/-- A name that comes twice, an optional property, and types with question marks, bars, quotes and
braces; blanks of several sorts, or none. -/
theorem summarize_objectType_of_fiveProperties :
    let text := " \x7ba?:Array<b?>;\n\t$b: x | '?' \x7d ; a:\nc;_1:d; e: f ;\n\x7d"
    ∃ o : ObjectType, Text.trim text.toList = o.text ∧ 25 < o.text.length ∧
      o.names = [['a'], ['$', 'b'], ['_', '1'], ['e']] ∧
      summarize text = "\x7b a, $b, _1, ... \x7d" := by
  intro text
  let o : ObjectType := {
    first := ⟨[], ['a'], true, "Array<b?>".toList, List.all_eq_true.1 rfl, rfl, by decide,
      'A', by decide, rfl⟩
    others :=
      [ ⟨['\n', '\t'], ['$', 'b'], false, " x | '?' \x7d ".toList, List.all_eq_true.1 rfl, rfl,
          by decide, 'x', by decide, rfl⟩,
        ⟨[' '], ['a'], false, "\nc".toList, List.all_eq_true.1 rfl, rfl, by decide,
          'c', by decide, rfl⟩,
        ⟨[], ['_', '1'], false, ['d'], List.all_eq_true.1 rfl, rfl, by decide,
          'd', by decide, rfl⟩,
        ⟨[' '], ['e'], false, " f ".toList, List.all_eq_true.1 rfl, rfl, by decide,
          'f', by decide, rfl⟩ ]
    ending := .semicolon ['\n'] (List.all_eq_true.1 rfl) }
  have htext : Text.trim text.toList = o.text := by decide +kernel
  have hlong : 25 < o.text.length := by decide +kernel
  refine ⟨o, htext, hlong, by decide +kernel, ?_⟩
  rw [summarize_objectType htext hlong]
  decide +kernel

end TypeMismatch.Summary
