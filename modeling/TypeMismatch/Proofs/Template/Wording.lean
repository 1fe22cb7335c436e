import TypeMismatch.Mismatch
import TypeMismatch.Proofs.Template.Standard

/-!
# Reading the messages of the compiler

The standard templates undo the wording of the compiler: from a message with two types in it they
find these types (`standard_templates_undo_wording`).  The types are any texts of one line without
quotes, so they may hold words of the templates; but a template reads the quotes of a message in one
way only, and what a template asks for between the types tells the messages apart.
-/

namespace TypeMismatch

namespace Mismatch

variable {set : TemplateSet} {code : Json} {t : Template} {message a b : String}

/-- The template that a code asks for is tried first. -/
theorem ofMessage?_of_code {name : String} (hcode : set.nameForCode? code = some name)
    (ht : set.get? name = some t) (hmessage : message.isEmpty = false)
    (hmatch : t.match? message = some (a, b)) :
    ofMessage? set message code = some ⟨t.name, t.labels, a, b⟩ := by
  have hfirst : ofTemplate? message t = some ⟨t.name, t.labels, a, b⟩ := by
    rw [ofTemplate?, hmatch, Option.map_some]
  simp [ofMessage?, hmessage, candidates, hcode, ht, hfirst]

/-- Without a code a template is tried after those in front of it. -/
theorem ofMessage?_of_no_code {earlier later : List Template}
    (hcode : set.nameForCode? code = none)
    (hset : Entries.values set.templates = earlier ++ t :: later)
    (hearlier : ∀ r ∈ earlier, r.match? message = none) (hmessage : message.isEmpty = false)
    (hmatch : t.match? message = some (a, b)) :
    ofMessage? set message code = some ⟨t.name, t.labels, a, b⟩ := by
  have hnone : earlier.findSome? (ofTemplate? message) = none := by
    rw [List.findSome?_eq_none_iff]
    intro r hr
    rw [ofTemplate?, hearlier r hr, Option.map_none]
  simp [ofMessage?, hmessage, candidates, hcode, hset, List.findSome?_append, hnone, ofTemplate?,
    hmatch]

end Mismatch

open Pattern Template

/-- A text that the compiler may show as a type: some characters of one line, no quotes. -/
structure IsTypeText (text : String) : Prop where
  nonempty : text ≠ ""
  quotes : '\'' ∉ text.toList
  lines : '\n' ∉ text.toList

theorem IsTypeText.isLine {text : String} (h : IsTypeText text) : IsLine text.toList :=
  ⟨fun hnil => h.nonempty (String.toList_eq_nil_iff.1 hnil), h.lines⟩

/-- The words of a message around its two types. -/
structure Words where
  lead : String
  link : String
  trail : String

namespace Words

/-- The message: the words, and between them the two types in quotes. -/
def message (w : Words) (actual expected : String) : String :=
  w.lead ++ "'" ++ actual ++ "'" ++ w.link ++ "'" ++ expected ++ "'" ++ w.trail

/-- The words with the two types, part by part. -/
def sentence (w : Words) (actual expected : String) : Sentence :=
  ⟨w.lead.toList, actual.toList, w.link.toList, expected.toList, w.trail.toList⟩

theorem toList_message (w : Words) (actual expected : String) :
    (w.message actual expected).toList = (w.sentence actual expected).text := by
  simp [message, sentence, Sentence.text, quote]

/-- The words have no quotes. -/
structure Unquoted (w : Words) : Prop where
  lead : '\'' ∉ w.lead.toList
  link : '\'' ∉ w.link.toList
  trail : '\'' ∉ w.trail.toList

/-- The words are those of the outline. -/
structure Follow (w : Words) (o : Outline) : Prop where
  lead : SpellAll o.lead w.lead.toList
  link : SpellAll o.link w.link.toList
  trail : SpellAll o.trail []

variable {w : Words} {actual expected : String}

theorem Unquoted.omits (hw : w.Unquoted) (ha : IsTypeText actual) (hb : IsTypeText expected) :
    (w.sentence actual expected).Omits '\'' :=
  ⟨hw.lead, ha.quotes, hw.link, hb.quotes, hw.trail⟩

theorem Follow.describes {o : Outline} (h : w.Follow o) (ha : IsTypeText actual)
    (hb : IsTypeText expected) : o.Describes (w.sentence actual expected) :=
  ⟨h.lead, ha.isLine, h.link, hb.isLine, h.trail⟩

end Words

namespace Standard

/-- The messages of one line that have a standard template. -/
inductive Wording where
  | assignability
  | returnMismatch
  | parameter
  | property
  /-- The message goes on with the names of the properties. -/
  | missingProps (names : String) (unquoted : '\'' ∉ names.toList)

namespace Wording

def words : Wording → Words
  | assignability => ⟨"Type ", " is not assignable to type ", "."⟩
  | returnMismatch => ⟨"Type ", " is not assignable to type ", "."⟩
  | parameter => ⟨"Argument of type ", " is not assignable to parameter of type ", "."⟩
  | property => ⟨"Property ", " does not exist on type ", "."⟩
  | missingProps names _ =>
    ⟨"Type ", " is missing the following properties from type ", ": " ++ names⟩

/-- The name of the template for the message. -/
def name : Wording → String
  | assignability => "assignability"
  | returnMismatch => "return_mismatch"
  | parameter => "parameter"
  | property => "property"
  | missingProps _ _ => "missing_props"

/-- The code that the compiler gives with the message. -/
def code : Wording → String
  | assignability => "2322"
  | returnMismatch => "2416"
  | parameter => "2345"
  | property => "2339"
  | missingProps _ _ => "2741"

def template : Wording → Template
  | assignability => Standard.assignability
  | returnMismatch => Standard.returnMismatch
  | parameter => Standard.parameter
  | property => Standard.property
  | missingProps _ _ => Standard.missingProps

def outline : Wording → Outline
  | assignability => assignabilityOutline
  | returnMismatch => returnMismatchOutline
  | parameter => parameterOutline
  | property => propertyOutline
  | missingProps _ _ => missingPropsOutline

theorem outlined (w : Wording) : Outlined w.template w.outline := by
  cases w with
  | assignability => exact outlined_assignability
  | returnMismatch => exact outlined_returnMismatch
  | parameter => exact outlined_parameter
  | property => exact outlined_property
  | missingProps names h => exact outlined_missingProps

theorem name_template (w : Wording) : w.template.name = w.name := by
  cases w <;> rfl

theorem get?_name (w : Wording) : templates.get? w.name = some w.template := by
  rw [templates_eq]
  cases w <;> rfl

theorem nameForCode?_code (w : Wording) {code : Json} (h : Code.normalize? code = some w.code) :
    templates.nameForCode? code = some w.name := by
  rw [TemplateSet.nameForCode?, h]
  cases w <;> rfl

theorem unquoted_words (w : Wording) : w.words.Unquoted := by
  cases w with
  | missingProps names h =>
    have hlead : '\'' ∉ "Type ".toList := by decide
    have hlink : '\'' ∉ " is missing the following properties from type ".toList := by decide
    refine ⟨hlead, hlink, ?_⟩
    simpa [words] using h
  | _ => constructor <;> decide

theorem follow_words (w : Wording) : w.words.Follow w.outline := by
  have htrail : SpellAll [.optional ['.']] [] := ⟨[], [], .inl rfl, rfl, rfl⟩
  cases w with
  | assignability =>
    refine ⟨⟨['T'], "ype ".toList, .inl rfl, spellAll_text.2 rfl, rfl⟩, ?_, htrail⟩
    -- nothing stands in the place of the words that the pattern leaves open
    have hopen : SpellAll [.line, .text "type ".toList] "type ".toList :=
      ⟨[], "type ".toList, List.not_mem_nil, spellAll_text.2 rfl, rfl⟩
    exact ⟨" is not assignable to ".toList, "type ".toList, rfl, hopen, rfl⟩
  | returnMismatch => exact ⟨spellAll_text.2 rfl, spellAll_text.2 rfl, rfl⟩
  | parameter =>
    refine ⟨⟨['A'], "rgument of type ".toList, .inl rfl, spellAll_text.2 rfl, rfl⟩, ?_, htrail⟩
    exact spellAll_text.2 rfl
  | property => exact ⟨spellAll_text.2 rfl, spellAll_text.2 rfl, htrail⟩
  | missingProps names h => exact ⟨spellAll_text.2 rfl, spellAll_text.2 rfl, rfl⟩

/-- A message is read by the template for it, whatever follows its line. -/
theorem match?_template (w : Wording) {actual expected : String} (ha : IsTypeText actual)
    (hb : IsTypeText expected) (more : String) (hmore : FollowsLine more.toList) :
    w.template.match? (w.words.message actual expected ++ more) = some (actual, expected) := by
  have htext : (w.words.message actual expected ++ more).toList =
      (w.words.sentence actual expected).text ++ more.toList := by
    rw [String.toList_append, Words.toList_message]
  have hmatch := match?_of_sentence w.outlined (w.unquoted_words.omits ha hb)
    (w.follow_words.describes ha hb) hmore htext
  simpa [Words.sentence] using hmatch

/-! ## Templates that are tried in vain -/

/-- The templates in front of the one for the message. -/
def earlier : Wording → List Template
  | assignability =>
    [overload, Standard.parameter, Standard.missingProps, Standard.property]
  | returnMismatch =>
    [overload, Standard.parameter, Standard.missingProps, Standard.property,
      Standard.assignability]
  | parameter => [overload]
  | property => [overload, Standard.parameter, Standard.missingProps]
  | missingProps _ _ => [overload, Standard.parameter]

theorem values_templates (w : Wording) :
    ∃ later, Entries.values templates.templates = w.earlier ++ w.template :: later := by
  rw [templates_eq]
  cases w <;> exact ⟨_, rfl⟩

section

variable (w : Wording) {actual expected : String} (ha : IsTypeText actual)
  (hb : IsTypeText expected)

include ha hb

theorem match?_overload : overload.match? (w.words.message actual expected) = none := by
  have htype : "Type ".toList.length < overloadIntroduction.length := by decide
  have hargument : "Argument of type ".toList.length < overloadIntroduction.length := by decide
  have hproperty : "Property ".toList.length < overloadIntroduction.length := by decide
  have hlength : w.words.lead.toList.length < overloadIntroduction.length := by
    cases w with
    | parameter => exact hargument
    | property => exact hproperty
    | _ => exact htype
  exact match?_eq_none_of_length introduced_overload (w.unquoted_words.omits ha hb) hlength
    (w.words.toList_message actual expected)

/-- A template that asks for other words between the types does not read the message. -/
theorem match?_of_other_link {t : Template} {o : Outline} {cs : List Char} (ht : Outlined t o)
    (ho : o.link = [.text cs]) (hne : w.words.link.toList ≠ cs) :
    t.match? (w.words.message actual expected) = none := by
  refine match?_eq_none_of_link ht (w.unquoted_words.omits ha hb) ?_
    (w.words.toList_message actual expected)
  rw [ho, spellAll_text]
  exact hne

theorem match?_earlier (hw : w ≠ returnMismatch) :
    ∀ r ∈ w.earlier, r.match? (w.words.message actual expected) = none := by
  have hoverload := w.match?_overload ha hb
  have hparameter : w.words.link.toList ≠ " is not assignable to parameter of type ".toList →
      Standard.parameter.match? (w.words.message actual expected) = none :=
    w.match?_of_other_link ha hb outlined_parameter rfl
  have hmissing :
      w.words.link.toList ≠ " is missing the following properties from type ".toList →
      Standard.missingProps.match? (w.words.message actual expected) = none :=
    w.match?_of_other_link ha hb outlined_missingProps rfl
  have hproperty : w.words.link.toList ≠ " does not exist on type ".toList →
      Standard.property.match? (w.words.message actual expected) = none :=
    w.match?_of_other_link ha hb outlined_property rfl
  intro r hr
  cases w with
  | assignability =>
    simp only [earlier, List.mem_cons, List.not_mem_nil, or_false] at hr
    rcases hr with rfl | rfl | rfl | rfl
    · exact hoverload
    · exact hparameter (by decide)
    · exact hmissing (by decide)
    · exact hproperty (by decide)
  | returnMismatch => exact absurd rfl hw
  | parameter =>
    obtain rfl := List.mem_singleton.1 hr
    exact hoverload
  | property =>
    simp only [earlier, List.mem_cons, List.not_mem_nil, or_false] at hr
    rcases hr with rfl | rfl | rfl
    · exact hoverload
    · exact hparameter (by decide)
    · exact hmissing (by decide)
  | missingProps names h =>
    have hlink : " is missing the following properties from type ".toList ≠
        " is not assignable to parameter of type ".toList := by decide
    simp only [earlier, List.mem_cons, List.not_mem_nil, or_false] at hr
    rcases hr with rfl | rfl
    · exact hoverload
    · exact hparameter hlink

end

end Wording

/-! ## Overloads -/

/-- The last clause of a message on overloads. -/
def overloadClause (parameter : Bool) : Words :=
  if parameter then ⟨"type ", " is not assignable to parameter of type ", "."⟩
  else ⟨"type ", " is not assignable to type ", "."⟩

theorem unquoted_overloadClause (parameter : Bool) : (overloadClause parameter).Unquoted := by
  cases parameter <;> constructor <;> decide

theorem follow_overloadClause (parameter : Bool) :
    (overloadClause parameter).Follow overloadOutline := by
  have hlead : SpellAll overloadOutline.lead "type ".toList :=
    ⟨['t'], "ype ".toList, .inr rfl, spellAll_text.2 rfl, rfl⟩
  cases parameter with
  | true =>
    have hlast : SpellAll [.optional "parameter of ".toList, .text "type ".toList]
        "parameter of type ".toList :=
      ⟨"parameter of ".toList, "type ".toList, .inr rfl, spellAll_text.2 rfl, rfl⟩
    exact ⟨hlead, ⟨" is not assignable to ".toList, _, rfl, hlast, rfl⟩, rfl⟩
  | false =>
    have hlast : SpellAll [.optional "parameter of ".toList, .text "type ".toList]
        "type ".toList :=
      ⟨[], "type ".toList, .inl rfl, spellAll_text.2 rfl, rfl⟩
    exact ⟨hlead, ⟨" is not assignable to ".toList, _, rfl, hlast, rfl⟩, rfl⟩

theorem match?_overload_of_clause (text : String) (parameter : Bool) {actual expected : String}
    (ha : IsTypeText actual) (hb : IsTypeText expected) :
    overload.match? ("No overload matches this call" ++ text ++
      (overloadClause parameter).message actual expected) = some (actual, expected) := by
  have htext : ("No overload matches this call" ++ text ++
      (overloadClause parameter).message actual expected).toList =
      overloadIntroduction ++ (text.toList ++
        ((overloadClause parameter).sentence actual expected).text) := by
    rw [String.toList_append, String.toList_append, Words.toList_message, List.append_assoc]
    rfl
  have hmatch := match?_of_last_sentence introduced_overload
    ((unquoted_overloadClause parameter).omits ha hb)
    ((follow_overloadClause parameter).describes ha hb) htext
  simpa [Words.sentence] using hmatch

/-! ## Undoing the wording -/

theorem get?_overload : templates.get? "overload" = some overload := by
  rw [templates_eq]
  rfl

section

variable {actual expected : String} (ha : IsTypeText actual) (hb : IsTypeText expected)
  {code : Json}

include ha hb

theorem Wording.ofMessage?_of_code (w : Wording) (hcode : Code.normalize? code = some w.code)
    {more : String} (hmore : more = "" ∨ ∃ tail, more = "\n" ++ tail) :
    Mismatch.ofMessage? templates (w.words.message actual expected ++ more) code =
      some ⟨w.template.name, w.template.labels, actual, expected⟩ := by
  have hfollows : FollowsLine more.toList := by
    rcases hmore with rfl | ⟨tail, rfl⟩
    · exact .inl rfl
    · exact .inr ⟨tail.toList, String.toList_append⟩
  have hempty : (w.words.message actual expected ++ more).isEmpty = false := by
    simp [Words.message]
  exact Mismatch.ofMessage?_of_code (w.nameForCode?_code hcode) w.get?_name hempty
    (w.match?_template ha hb more hfollows)

theorem Wording.ofMessage?_of_no_code (w : Wording) (hw : w ≠ .returnMismatch)
    (hcode : templates.nameForCode? code = none) :
    Mismatch.ofMessage? templates (w.words.message actual expected) code =
      some ⟨w.template.name, w.template.labels, actual, expected⟩ := by
  obtain ⟨later, hvalues⟩ := w.values_templates
  have hempty : (w.words.message actual expected).isEmpty = false := by
    simp [Words.message]
  have hmatch := w.match?_template ha hb "" (.inl rfl)
  rw [String.append_empty] at hmatch
  exact Mismatch.ofMessage?_of_no_code hcode hvalues (w.match?_earlier ha hb hw) hempty hmatch

theorem ofMessage?_of_overload (text : String) (parameter : Bool)
    (hcode : Code.normalize? code = some "2769" ∨ templates.nameForCode? code = none) :
    Mismatch.ofMessage? templates ("No overload matches this call" ++ text ++
        (overloadClause parameter).message actual expected) code =
      some ⟨overload.name, overload.labels, actual, expected⟩ := by
  have hmatch := match?_overload_of_clause text parameter ha hb
  have hempty : ("No overload matches this call" ++ text ++
      (overloadClause parameter).message actual expected).isEmpty = false := by
    simp [Words.message]
  rcases hcode with hcode | hcode
  · have hname : templates.nameForCode? code = some "overload" := by
      rw [TemplateSet.nameForCode?, hcode]
      rfl
    exact Mismatch.ofMessage?_of_code hname get?_overload hempty hmatch
  · obtain ⟨later, hvalues⟩ : ∃ later,
        Entries.values templates.templates = [] ++ overload :: later := by
      rw [templates_eq]
      exact ⟨_, rfl⟩
    exact Mismatch.ofMessage?_of_no_code hcode hvalues (List.forall_mem_nil _) hempty hmatch

end

/-- **The standard templates undo the wording of the compiler.**  A message is read by the template
for it, with the types that it was made of: for the code of the template also if any lines follow,
and without a code unless the more general template comes first.  A message on overloads may hold
anything in front of its last clause. -/
theorem standard_templates_undo_wording {actual expected : String} (ha : IsTypeText actual)
    (hb : IsTypeText expected) :
    (∀ w : Wording, ∃ t, templates.get? w.name = some t ∧ t.name = w.name ∧
      (∀ code more, Code.normalize? code = some w.code →
        (more = "" ∨ ∃ tail, more = "\n" ++ tail) →
        Mismatch.ofMessage? templates (w.words.message actual expected ++ more) code =
          some ⟨t.name, t.labels, actual, expected⟩) ∧
      (w ≠ .returnMismatch → ∀ code, templates.nameForCode? code = none →
        Mismatch.ofMessage? templates (w.words.message actual expected) code =
          some ⟨t.name, t.labels, actual, expected⟩)) ∧
    ∃ t, templates.get? "overload" = some t ∧ t.name = "overload" ∧
      ∀ code text parameter,
        (Code.normalize? code = some "2769" ∨ templates.nameForCode? code = none) →
        Mismatch.ofMessage? templates ("No overload matches this call" ++ text ++
            (overloadClause parameter).message actual expected) code =
          some ⟨t.name, t.labels, actual, expected⟩ := by
  constructor
  · intro w
    refine ⟨w.template, w.get?_name, w.name_template, ?_, ?_⟩
    · intro code more hcode hmore
      exact w.ofMessage?_of_code ha hb hcode hmore
    · intro hw code hcode
      exact w.ofMessage?_of_no_code ha hb hw hcode
  · refine ⟨overload, get?_overload, rfl, ?_⟩
    intro code text parameter hcode
    exact ofMessage?_of_overload ha hb text parameter hcode

/-- Types that hold words of other templates are read like any others. -/
theorem standard_templates_undo_wording_of_template_words :
    Mismatch.ofMessage? templates
        "Type 'No overload matches this call' is not assignable to type 'Argument of type T'."
        .null =
      some ⟨"assignability", ⟨"Actual type:", "Expected type:"⟩, "No overload matches this call",
        "Argument of type T"⟩ ∧
    Mismatch.ofMessage? templates
        ("Type 'No overload matches this call' is not assignable to type 'Argument of type T'." ++
          "\n  Type 'A' is not assignable to type 'B'.") (.string "TS2416") =
      some ⟨"return_mismatch", ⟨"Returned:", "Expected return:"⟩, "No overload matches this call",
        "Argument of type T"⟩ := by
  have hactual : IsTypeText "No overload matches this call" := by constructor <;> decide
  have hexpected : IsTypeText "Argument of type T" := by constructor <;> decide
  have hread := (standard_templates_undo_wording hactual hexpected).1
  obtain ⟨t, ht, -, -, hnone⟩ := hread .assignability
  obtain ⟨r, hr, -, hcode, -⟩ := hread .returnMismatch
  rw [Wording.get?_name, Option.some_inj] at ht hr
  subst ht hr
  have hmore : ∃ tail, "\n  Type 'A' is not assignable to type 'B'." = "\n" ++ tail :=
    ⟨"  Type 'A' is not assignable to type 'B'.", rfl⟩
  exact ⟨hnone nofun .null rfl, hcode (.string "TS2416") _ (by decide) (.inr hmore)⟩

end Standard

end TypeMismatch
