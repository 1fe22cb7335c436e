import TypeMismatch.Proofs.Request
import TypeMismatch.Proofs.Session
import TypeMismatch.Server

/-!
# Runs of a server

One reaction is described by the verdict on its event and by the shape of the arguments of a request
(`reacted`).  Along a run, the settings in force are those of the last event that was accepted, each
of them loaded on top of the standard settings, or those at the start.  Every other event leaves the
session as it is.
-/

namespace TypeMismatch.Server

variable {platform : Platform}

/-! ## Events -/

/-- What an event brings as settings. -/
def Event.sent? : Event → Option Json
  | .opening options => some options
  | .settings sent => some sent
  | _ => none

def Event.verdict (platform : Platform) (event : Event) : Verdict :=
  match event.sent? with
  | some sent => Verdict.ofSent platform sent
  | none => .silent

def Event.accepted? (platform : Platform) (event : Event) : Option Settings :=
  (event.verdict platform).accepted?

/-- The message for an event whose settings are rejected. -/
def Event.message? (platform : Platform) (event : Event) : Option Message :=
  (event.verdict platform).rejected?.map fun report => ⟨errorType, s!"tsprettify: {report.text}"⟩

open Request in
/-- Each request is answered by the operation of its name, on what its arguments say.  A request
with an argument that cannot be shown fails, and so do settings whose loading fails without a
report; all other settings have an empty answer. -/
inductive Answers (platform : Platform) (s : Settings) : Event → Except Failure Json → Prop
  | prettify {arguments values : List Json} {message : String} {code : Json}
      (given : Given arguments values) (seeks : Seeks values (.ok (message, code))) :
      Answers platform s (.request .prettify arguments)
        (.ok (.string (Rendering.prettify s message code)))
  | found {arguments values : List Json} {message : String} {code : Json} {m : Mismatch}
      (given : Given arguments values) (seeks : Seeks values (.ok (message, code)))
      (found : Mismatch.ofMessage? s.templates message code = some m) :
      Answers platform s (.request .extract arguments)
        (.ok (.object
          [ ("template", .string m.template),
            ("labels", .array [.string m.labels.actual, .string m.labels.expected]),
            ("actual", .string m.actual),
            ("expected", .string m.expected) ]))
  | missing {arguments values : List Json} {message : String} {code : Json}
      (given : Given arguments values) (seeks : Seeks values (.ok (message, code)))
      (missing : Mismatch.ofMessage? s.templates message code = none) :
      Answers platform s (.request .extract arguments) (.ok .null)
  | oneLine {arguments values : List Json} {message : String} {code : Json}
      (given : Given arguments values) (seeks : Seeks values (.ok (message, code))) :
      Answers platform s (.request .oneLine arguments)
        (.ok (.string (Rendering.oneLine s message code)))
  | unsought {request : Request} {arguments values : List Json} {failure : Failure}
      (search : request = .prettify ∨ request = .extract ∨ request = .oneLine)
      (given : Given arguments values) (seeks : Seeks values (.error failure)) :
      Answers platform s (.request request arguments) (.error failure)
  | format {arguments values : List Json} {text : String} (given : Given arguments values)
      (told : Tells values[0]? (.ok text)) :
      Answers platform s (.request .format arguments) (.ok (.string (Layout.format s.style text)))
  | summarize {arguments values : List Json} {text : String} (given : Given arguments values)
      (told : Tells values[0]? (.ok text)) :
      Answers platform s (.request .summarize arguments) (.ok (.string (Summary.summarize text)))
  | diff {arguments values : List Json} {left right : String} {sides : Sides}
      (given : Given arguments values) (toldLeft : Tells values[0]? (.ok left))
      (toldRight : Tells values[1]? (.ok right)) (marked : Edit.diff left right = sides) :
      Answers platform s (.request .diff arguments)
        (.ok (.array [.string sides.1, .string sides.2]))
  | untold {request : Request} {arguments values : List Json} {failure : Failure}
      (laysOut : request = .format ∨ request = .summarize ∨ request = .diff)
      (given : Given arguments values) (told : Tells values[0]? (.error failure)) :
      Answers platform s (.request request arguments) (.error failure)
  | untoldRight {arguments values : List Json} {left : String} {failure : Failure}
      (given : Given arguments values) (toldLeft : Tells values[0]? (.ok left))
      (toldRight : Tells values[1]? (.error failure)) :
      Answers platform s (.request .diff arguments) (.error failure)
  | ready : Answers platform s .ready (.ok .null)
  | taken {event : Event} {sent : Json} (brings : event.sent? = some sent)
      (sound : (event.verdict platform).failed? = none) : Answers platform s event (.ok .null)
  | failed {event : Event} {failure : Failure}
      (fault : (event.verdict platform).failed? = some failure) :
      Answers platform s event (.error failure)

section Requests

open Request

variable {s : Settings} {request : Request} {arguments : List Json} {answer : Except Failure Json}

theorem answer_of_answers (h : Answers platform s (.request request arguments) answer) :
    request.answer s arguments = answer := by
  cases h with
  | prettify hgiven hseeks =>
    rw [Request.answer, given_iff.1 hgiven, seeks_iff.1 hseeks]
    rfl
  | @found _ values message code m hgiven hseeks hfound =>
    rw [Request.answer, given_iff.1 hgiven, seeks_iff.1 hseeks]
    show Except.ok (mismatchValue (Rendering.find? s message code)) = _
    rw [Rendering.find?, hfound]
    rfl
  | @missing _ values message code hgiven hseeks hmissing =>
    rw [Request.answer, given_iff.1 hgiven, seeks_iff.1 hseeks]
    show Except.ok (mismatchValue (Rendering.find? s message code)) = _
    rw [Rendering.find?, hmissing]
    rfl
  | oneLine hgiven hseeks =>
    rw [Request.answer, given_iff.1 hgiven, seeks_iff.1 hseeks]
    rfl
  | unsought hsearch hgiven hseeks =>
    rw [Request.answer.eq_def, given_iff.1 hgiven]
    rcases hsearch with rfl | rfl | rfl
    all_goals
      dsimp only
      rw [seeks_iff.1 hseeks]
      rfl
  | format hgiven htold =>
    rw [Request.answer, given_iff.1 hgiven, tells_iff.1 htold]
    rfl
  | summarize hgiven htold =>
    rw [Request.answer, given_iff.1 hgiven, tells_iff.1 htold]
    rfl
  | diff hgiven hleft hright hmarked =>
    rw [Request.answer, given_iff.1 hgiven, tells_iff.1 hleft, tells_iff.1 hright, ← hmarked]
    rfl
  | untold hlaysOut hgiven htold =>
    rw [Request.answer.eq_def, given_iff.1 hgiven]
    rcases hlaysOut with rfl | rfl | rfl
    all_goals
      dsimp only
      rw [tells_iff.1 htold]
      rfl
  | untoldRight hgiven hleft hright =>
    rw [Request.answer, given_iff.1 hgiven, tells_iff.1 hleft, tells_iff.1 hright]
    rfl
  | taken hbrings hsound => cases hbrings
  | failed hfault => cases hfault

theorem answers_request : Answers platform s (.request request arguments)
    (request.answer s arguments) := by
  have hgiven : Given arguments (spread arguments) := given_iff.2 rfl
  have hseeks : Seeks (spread arguments) (query (spread arguments)) := seeks_iff.2 rfl
  have hleft : Tells (spread arguments)[0]? (textAt (spread arguments) 0) := tells_iff.2 rfl
  have hright : Tells (spread arguments)[1]? (textAt (spread arguments) 1) := tells_iff.2 rfl
  rw [Request.answer.eq_def]
  dsimp only
  generalize query (spread arguments) = sought at hseeks
  generalize textAt (spread arguments) 0 = left at hleft
  generalize textAt (spread arguments) 1 = right at hright
  cases request with
  | prettify =>
    cases sought with
    | ok sought => exact .prettify hgiven hseeks
    | error failure => exact .unsought (.inl rfl) hgiven hseeks
  | extract =>
    cases sought with
    | ok sought =>
      show Answers _ _ _ (.ok (mismatchValue (Mismatch.ofMessage? s.templates sought.1 sought.2)))
      cases hfound : Mismatch.ofMessage? s.templates sought.1 sought.2 with
      | some m => exact .found hgiven hseeks hfound
      | none => exact .missing hgiven hseeks hfound
    | error failure => exact .unsought (.inr (.inl rfl)) hgiven hseeks
  | format =>
    cases left with
    | ok text => exact .format hgiven hleft
    | error failure => exact .untold (.inl rfl) hgiven hleft
  | diff =>
    cases left with
    | ok left =>
      cases right with
      | ok right => exact .diff hgiven hleft hright rfl
      | error failure => exact .untoldRight hgiven hleft hright
    | error failure => exact .untold (.inr (.inr rfl)) hgiven hleft
  | summarize =>
    cases left with
    | ok text => exact .summarize hgiven hleft
    | error failure => exact .untold (.inr (.inl rfl)) hgiven hleft
  | oneLine =>
    cases sought with
    | ok sought => exact .oneLine hgiven hseeks
    | error failure => exact .unsought (.inr (.inr rfl)) hgiven hseeks

/-- A request has the answer of its operation, and no other. -/
theorem answers_request_iff :
    Answers platform s (.request request arguments) answer ↔
      request.answer s arguments = answer := by
  constructor
  · exact answer_of_answers
  · rintro rfl
    exact answers_request

end Requests

/-- Settings have an empty answer, or fail as the verdict on them does, and have no other. -/
theorem answers_sent_iff {s : Settings} {event : Event} {sent : Json}
    {answer : Except Failure Json} (hsent : event.sent? = some sent) :
    Answers platform s event answer ↔
      (match (event.verdict platform).failed? with
        | some failure => .error failure
        | none => .ok .null) = answer := by
  constructor
  · intro h
    cases h with
    | taken hbrings hsound => rw [hsound]
    | failed hfault => rw [hfault]
    | _ => cases hsent
  · rintro rfl
    split
    · next hfault => exact .failed hfault
    · next hsound => exact .taken hsent hsound

/-! ## One reaction -/

/-- What a server did about an event, by the verdict on it and by what its arguments say. -/
structure Reacted (platform : Platform) (session : Session) (event : Event) (reaction : Reaction) :
    Prop where
  settings : reaction.session.settings = (event.accepted? platform).getD session.settings
  unchanged : event.accepted? platform = none → reaction.session = session
  shown : reaction.shown = (event.message? platform).toList
  answer : ∀ answer, Answers platform session.settings event answer ↔ reaction.answer = answer

theorem reacted_take (session : Session) {event : Event} {sent : Json}
    (hsent : event.sent? = some sent) :
    Reacted platform session event (take platform session sent) := by
  have hanswer := fun answer => @answers_sent_iff platform session.settings event sent answer hsent
  have hverdict : event.verdict platform = Verdict.ofSent platform sent := by
    rw [Event.verdict, hsent]
  have hreceived := session.received platform sent
  rw [← hverdict] at hreceived
  rw [take]
  -- from here on only the verdict counts, no longer what was sent
  generalize hv : event.verdict platform = verdict at hreceived hanswer
  generalize session.receive platform sent = result at hreceived
  cases hreceived with
  | silent =>
    refine ⟨?_, fun _ => rfl, ?_, hanswer⟩
    · rw [Event.accepted?, hv]; rfl
    · rw [Event.message?, hv]; rfl
  | accepted next reception known =>
    refine ⟨?_, ?_, ?_, hanswer⟩
    · rw [Event.accepted?, hv]; rfl
    · rw [Event.accepted?, hv]
      nofun
    · rw [Event.message?, hv]
      cases reception with
      | rejected text => exact absurd rfl (known text)
      | _ => rfl
  | rejected report =>
    refine ⟨?_, fun _ => rfl, ?_, hanswer⟩
    · rw [Event.accepted?, hv]; rfl
    · rw [Event.message?, hv]; rfl
  | failed failure =>
    refine ⟨?_, fun _ => rfl, ?_, hanswer⟩
    · rw [Event.accepted?, hv]; rfl
    · rw [Event.message?, hv]; rfl

theorem reacted (session : Session) (event : Event) :
    Reacted platform session event (react platform session event) := by
  cases event with
  | opening options => exact reacted_take session rfl
  | ready =>
    refine ⟨rfl, fun _ => rfl, rfl, fun answer => ⟨?_, ?_⟩⟩
    · intro h
      cases h with
      | ready => rfl
      | taken hbrings hsound => cases hbrings
      | failed hfault => cases hfault
    · rintro rfl
      exact .ready
  | settings sent => exact reacted_take session rfl
  | request request arguments =>
    exact ⟨rfl, fun _ => rfl, rfl, fun answer => answers_request_iff⟩

/-! ## Runs -/

/-- The session after some events. -/
def finish (platform : Platform) (session : Session) (events : List Event) : Session :=
  events.foldl (fun session event => (react platform session event).session) session

/-- The settings of the last event that was accepted, or those of the session. -/
def inForce (platform : Platform) (session : Session) (events : List Event) : Settings :=
  (events.filterMap (Event.accepted? platform)).getLast?.getD session.settings

theorem inForce_cons (session : Session) (event : Event) (events : List Event) :
    inForce platform session (event :: events) =
      inForce platform (react platform session event).session events := by
  rw [inForce, inForce, (reacted session event).settings]
  -- an event that was accepted takes the place of the start for the events after it
  cases haccepted : event.accepted? platform with
  | none => rw [List.filterMap_cons_none haccepted, Option.getD_none]
  | some s => rw [List.filterMap_cons_some haccepted, List.getLast?_cons, Option.getD_some,
      Option.getD_some]

theorem settings_finish (session : Session) (events : List Event) :
    (finish platform session events).settings = inForce platform session events := by
  induction events generalizing session with
  | nil => rfl
  | cons event events ih => rw [inForce_cons, ← ih]; rfl

theorem length_run (session : Session) (events : List Event) :
    (run platform session events).length = events.length := by
  induction events generalizing session with
  | nil => rfl
  | cons event events ih => rw [run, List.length_cons, List.length_cons, ih]

theorem run_append (session : Session) (before after : List Event) :
    run platform session (before ++ after) =
      run platform session before ++ run platform (finish platform session before) after := by
  induction before generalizing session with
  | nil => rfl
  | cons event before ih => rw [List.cons_append, run, ih]; rfl

theorem shown_run (session : Session) (events : List Event) :
    (run platform session events).flatMap Reaction.shown =
      events.filterMap (Event.message? platform) := by
  induction events generalizing session with
  | nil => rfl
  | cons event events ih =>
    rw [run, List.flatMap_cons, ih, (reacted session event).shown]
    cases hmessage : event.message? platform with
    | none => rw [List.filterMap_cons_none hmessage]; rfl
    | some message => rw [List.filterMap_cons_some hmessage]; rfl

/-- **The settings in force are those that were accepted last.**  After each event of a run they are
loaded from the last event with settings that were accepted, on top of the standard ones alone, or
are those at the start.  All other events leave the session as it is.  Each event with rejected
settings has one message, and each request is answered under the settings in force: as its arguments
say, and in no other way. -/
theorem run_settings_in_force (platform : Platform) (session : Session) (events : List Event) :
    (finish platform session events).settings = inForce platform session events ∧
    (run platform session events).flatMap Reaction.shown =
      events.filterMap (Event.message? platform) ∧
    (run platform session events).length = events.length ∧
    ∀ before event after, events = before ++ event :: after →
      ∃ reaction, (run platform session events)[before.length]? = some reaction ∧
        reaction.session = finish platform session (before ++ [event]) ∧
        reaction.session.settings = inForce platform session (before ++ [event]) ∧
        (event.accepted? platform = none →
          reaction.session = finish platform session before) ∧
        reaction.shown = (event.message? platform).toList ∧
        ∀ answer, Answers platform (inForce platform session before) event answer ↔
          reaction.answer = answer := by
  refine ⟨settings_finish session events, shown_run session events, length_run session events, ?_⟩
  rintro before event after rfl
  have hreacted := @reacted platform (finish platform session before) event
  have hfinish : (react platform (finish platform session before) event).session =
      finish platform session (before ++ [event]) := by
    rw [finish, finish, List.foldl_append]
    rfl
  refine ⟨react platform (finish platform session before) event, ?_, hfinish, ?_,
    hreacted.unchanged, hreacted.shown, ?_⟩
  · rw [run_append, ← @length_run platform session before,
      List.getElem?_append_right (Nat.le_refl _), Nat.sub_self]
    rfl
  · rw [hfinish, settings_finish]
  · rw [← settings_finish]
    exact hreacted.answer

/-- Settings that are refused, with a report or without one, do not end those before them; settings
that are accepted do, even where they say nothing. -/
theorem run_settings_in_force_reload :
    let platform := Platform.bare
    let indent (value : Json) : Event := .settings (.object [("indent", value)])
    let broken : Event := .opening (.object [("codes", .object [("9", .array [])])])
    let request : Event := .request .format [.array [.string "\x7ba:B\x7d", .null]]
    let before := [indent (.string "\t"), indent (.int 4), broken]
    let later := .settings (.object [("tsPrettify", .object [("max_line_length", .int 20)])])
    let session := Session.start none
    (finish platform session (before ++ request :: [later])).settings =
        { Settings.standard with lineLimit := 20 } ∧
      (run platform session (before ++ request :: [later])).flatMap Reaction.shown =
        [⟨1, "tsprettify: [indent] indent must be a string, got int"⟩] ∧
      ∃ reaction, (run platform session (before ++ request :: [later]))[3]? = some reaction ∧
        reaction.session = finish platform session before ∧
        reaction.answer = .ok (.string "\x7b\n\ta:B\n\x7d") := by
  intro platform indent broken request before later session
  have hindent : (indent (.string "\t")).accepted? platform =
      some { Settings.standard with indent := "\t" } := rfl
  have hwrong : (indent (.int 4)).accepted? platform = none := rfl
  have hbroken : broken.accepted? platform = none := rfl
  have hrequest : request.accepted? platform = none := rfl
  have hlater : later.accepted? platform = some { Settings.standard with lineLimit := 20 } := rfl
  obtain ⟨hfinal, hshown, -, hreactions⟩ :=
    run_settings_in_force platform session (before ++ request :: [later])
  obtain ⟨reaction, hreaction, -, -, hsame, -, hanswer⟩ := hreactions before request [later] rfl
  have hbefore : inForce platform session before = { Settings.standard with indent := "\t" } := by
    rw [inForce, List.filterMap_cons_some hindent, List.filterMap_cons_none hwrong,
      List.filterMap_cons_none hbroken]
    rfl
  refine ⟨hfinal.trans ?_, hshown.trans ?_, reaction, hreaction, hsame hrequest, ?_⟩
  · rw [inForce, List.filterMap_append, List.filterMap_cons_none hrequest,
      List.filterMap_cons_some hlater, List.getLast?_append]
    rfl
  · rfl
  · -- the arguments are the items of the array, and the first of them says what to lay out
    have hformat :
        Layout.format { Settings.standard with indent := "\t" }.style "\x7ba:B\x7d" =
          "\x7b\n\ta:B\n\x7d" := by decide +kernel
    rw [hbefore] at hanswer
    rw [← hanswer, ← hformat]
    exact .format (.inArray _) (.string "\x7ba:B\x7d")

end TypeMismatch.Server
