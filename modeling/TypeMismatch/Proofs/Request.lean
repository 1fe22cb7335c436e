import TypeMismatch.Proofs.Json.Display
import TypeMismatch.Session

/-!
# What a request reads

The arguments of a request come one by one or in one array (`Given`), an argument says a text
(`Tells`), and a message and a code are asked for by an object or by the first two arguments
(`Asks`).  These relations go by the shape of the arguments alone.  The readers of a request agree
with each of them (`given_iff`, `tells_iff`, `seeks_iff`), so a request reads what its arguments say
and nothing else.
-/

namespace TypeMismatch.Request

variable {arguments values : List Json} {value : Json} {text message : Except Failure String}
  {code : Json}

/-! ## Arguments -/

/-- The values that the arguments give: the items of an array that is the only argument, and
otherwise the arguments themselves. -/
inductive Given : List Json → List Json → Prop
  | inArray (values : List Json) : Given [.array values] values
  | oneByOne {values : List Json} (apart : ∀ items, values ≠ [.array items]) : Given values values

theorem given_iff : Given arguments values ↔ spread arguments = values := by
  unfold spread
  split
  · next items =>
    constructor
    · rintro (_ | happart)
      · rfl
      · exact absurd rfl (happart items)
    · rintro rfl
      exact .inArray items
  · next hother =>
    constructor
    · rintro (_ | -)
      · exact absurd rfl (hother _)
      · rfl
    · rintro rfl
      exact .oneByOne hother

/-! ## Texts -/

/-- What an argument says: nothing if it is missing or null, a string itself, and any other value
the form in which it is shown.  A value that holds a numeral with too many digits is not shown. -/
inductive Tells : Option Json → Except Failure String → Prop
  | missing : Tells none (.ok "")
  | null : Tells (some .null) (.ok "")
  | string (text : String) : Tells (some (.string text)) (.ok text)
  | shown {value : Json} {text : String} (given : value.kind ≠ .null)
      (other : value.kind ≠ .string) (shown : value.display? = some text) :
      Tells (some value) (.ok text)
  | long {value : Json} (long : value.HasLongNumeral) : Tells (some value) (.error .longNumeral)

theorem tells_some_iff (hgiven : value.kind ≠ .null) :
    Tells (some value) text ↔ value.written = text := by
  constructor
  · intro h
    cases h with
    | null => exact absurd rfl hgiven
    | string text => rfl
    | @shown _ text _ hother hshown =>
      have hplain : value.plain? = some text := by
        cases value with
        | string text => exact absurd rfl hother
        | _ => exact hshown
      rw [Json.written, hplain]
    | long hlong => rw [Json.written, Json.plain?_eq_none_iff.2 hlong]
  · rintro rfl
    unfold Json.written
    split
    · next text hplain =>
      cases value with
      | string text => cases hplain; exact .string _
      | _ => exact .shown hgiven nofun hplain
    · next hplain => exact .long (Json.plain?_eq_none_iff.1 hplain)

theorem tells_iff {index : Nat} : Tells values[index]? text ↔ textAt values index = text := by
  unfold textAt
  split
  · next hmissing =>
    rw [hmissing]
    exact ⟨fun | .missing => rfl, by rintro rfl; exact .missing⟩
  · next hnull =>
    rw [hnull]
    exact ⟨fun | .null => rfl, by rintro rfl; exact .null⟩
  · next value hgiven hvalue =>
    rw [hvalue]
    refine tells_some_iff fun hkind => ?_
    cases value <;> cases hkind
    exact hgiven rfl

/-! ## Messages and codes -/

/-- The value says nothing: it is null, false, a zero, or empty. -/
inductive Vacant : Json → Prop
  | null : Vacant .null
  | false : Vacant (.bool false)
  | zero : Vacant (.int 0)
  | zeroFloat {x : Float} (zero : (x == 0.0) = true) : Vacant (.float x)
  | string : Vacant (.string "")
  | array : Vacant (.array [])
  | object : Vacant (.object [])

theorem vacant_iff : Vacant value ↔ value.isVacant = true := by
  constructor
  · rintro (_ | _ | _ | hzero | _ | _ | _)
    case zeroFloat => exact hzero
    all_goals rfl
  · intro h
    cases value with
    | null => exact .null
    | bool b => cases b with
      | false => exact .false
      | true => cases h
    | int n => cases of_decide_eq_true h; exact .zero
    | float x => exact .zeroFloat h
    | string s => cases String.isEmpty_iff.1 h; exact .string
    | array items => cases List.isEmpty_iff.1 h; exact .array
    | object members => cases List.isEmpty_iff.1 h; exact .object

theorem kind_ne_null (hgiven : ¬ Vacant value) : value.kind ≠ .null := by
  intro hkind
  cases value with
  | null => exact hgiven .null
  | _ => cases hkind

/-- The message and the code that are asked for: the members of an object that comes first, and
otherwise the first two values.  Whatever is missing is null. -/
inductive Asks : List Json → Except Failure String → Json → Prop
  | vacant {members : Entries Json} (rest : List Json)
      (vacant : Vacant (Json.member members "message")) :
      Asks (.object members :: rest) (.ok "") (Json.member members "code")
  | member {members : Entries Json} (rest : List Json) {message : Except Failure String}
      (given : ¬ Vacant (Json.member members "message"))
      (told : Tells (some (Json.member members "message")) message) :
      Asks (.object members :: rest) message (Json.member members "code")
  | inOrder {values : List Json} {message : Except Failure String}
      (first : ∀ members rest, values ≠ .object members :: rest) (told : Tells values[0]? message) :
      Asks values message (values[1]?.getD .null)

theorem messageAndCode_of_asks (h : Asks values message code) :
    messageAndCode values = message >>= fun message => pure (message, code) := by
  cases h with
  | @vacant members rest hvacant =>
    rw [messageAndCode, messageOf, if_pos (vacant_iff.1 hvacant)]
  | @member members rest _ hgiven htold =>
    rw [messageAndCode, messageOf, if_neg fun h => hgiven (vacant_iff.2 h),
      (tells_some_iff (kind_ne_null hgiven)).1 htold]
  | inOrder hfirst htold =>
    unfold messageAndCode
    split
    · exact absurd rfl (hfirst _ _)
    · rw [tells_iff.1 htold]

theorem exists_asks (values : List Json) : ∃ message code, Asks values message code := by
  by_cases hfirst : ∃ members rest, values = .object members :: rest
  · obtain ⟨members, rest, rfl⟩ := hfirst
    by_cases hvacant : Vacant (Json.member members "message")
    · exact ⟨_, _, .vacant rest hvacant⟩
    · exact ⟨_, _, .member rest hvacant ((tells_some_iff (kind_ne_null hvacant)).2 rfl)⟩
  · refine ⟨_, _, .inOrder (fun members rest h => hfirst ⟨members, rest, h⟩) (tells_iff.2 rfl)⟩

/-- What is looked for: a message and a code, as they are asked for.  Where there is a message, the
code has to be one that is shown. -/
inductive Seeks (values : List Json) : Except Failure (String × Json) → Prop
  | unsaid {failure : Failure} {code : Json} (asks : Asks values (.error failure) code) :
      Seeks values (.error failure)
  | unshown {message : String} {code : Json} (asks : Asks values (.ok message) code)
      (given : message ≠ "") (long : code.HasLongNumeral) : Seeks values (.error .longNumeral)
  | sought {message : String} {code : Json} (asks : Asks values (.ok message) code)
      (shown : message ≠ "" → ¬ code.HasLongNumeral) : Seeks values (.ok (message, code))

theorem query_of_asks {message : String} (h : Asks values (.ok message) code) :
    query values =
      if message = "" then .ok (message, code)
      else code.written >>= fun _ => pure (message, code) := by
  rw [query, messageAndCode_of_asks h]
  by_cases hempty : message = ""
  · subst hempty
    rfl
  · rw [if_neg hempty]
    have hgiven : (!message.isEmpty) = true := by simpa using hempty
    simp only [bind, Except.bind, pure, Except.pure]
    rw [if_pos hgiven]
    cases code.written <;> rfl

theorem seeks_iff {sought : Except Failure (String × Json)} :
    Seeks values sought ↔ query values = sought := by
  constructor
  · rintro (hasks | ⟨hasks, hgiven, hlong⟩ | ⟨hasks, hshown⟩)
    · rw [query, messageAndCode_of_asks hasks]
      rfl
    · rw [query_of_asks hasks, if_neg hgiven, Json.written, Json.plain?_eq_none_iff.2 hlong]
      rfl
    · rw [query_of_asks hasks]
      split
      · rfl
      · next hgiven =>
        rw [Json.written]
        split
        · rfl
        · next hplain => exact absurd (Json.plain?_eq_none_iff.1 hplain) (hshown hgiven)
  · rintro rfl
    obtain ⟨message, code, hasks⟩ := exists_asks values
    cases message with
    | error failure =>
      rw [query, messageAndCode_of_asks hasks]
      exact .unsaid hasks
    | ok message =>
      rw [query_of_asks hasks]
      split
      · next hempty => exact .sought hasks fun hgiven => absurd hempty hgiven
      · next hgiven =>
        rw [Json.written]
        split
        · next hplain =>
          refine .sought hasks fun _ hlong => ?_
          rw [Json.plain?_eq_none_iff.2 hlong] at hplain
          cases hplain
        · next hplain => exact .unshown hasks hgiven (Json.plain?_eq_none_iff.1 hplain)

end TypeMismatch.Request
