import TypeMismatch.Proofs.Failure
import TypeMismatch.Session

/-!
# What becomes of settings that are sent

The verdict on settings that an editor sends is known without the session: it is that of loading
them on top of the standard settings.  A session goes by the verdict.  It takes settings that were
accepted as they are, and is the same as before in every other case (`received`).
-/

namespace TypeMismatch

/-- What loading makes of settings that an editor sent. -/
inductive Verdict where
  | silent
  | accepted (s : Settings)
  | rejected (report : Report)
  /-- The failure has no report. -/
  | failed (failure : Failure)

namespace Verdict

def accepted? : Verdict → Option Settings
  | .accepted s => some s
  | _ => none

def rejected? : Verdict → Option Report
  | .rejected report => some report
  | _ => none

def failed? : Verdict → Option Failure
  | .failed failure => some failure
  | _ => none

def ofLoad : Except Failure Settings → Verdict
  | .ok s => .accepted s
  | .error failure =>
    match failure.report? with
    | some report => .rejected report
    | none => .failed failure

/-- Loading starts from the standard settings, whatever was accepted before. -/
def ofSent (platform : Platform) (sent : Json) : Verdict :=
  if sent.isVacant then .silent
  else ofLoad (Settings.standard.load platform (Session.sectionOf sent))

theorem failed?_ofLoad_eq_none_iff {loaded : Except Failure Settings} :
    (ofLoad loaded).failed? = none ↔ ¬ Raises loaded := by
  cases loaded with
  | ok s => exact iff_of_true rfl (not_raises_ok s)
  | error failure =>
    rw [raises_error_iff, ofLoad]
    cases hreport : failure.report? with
    | some report => exact iff_of_true rfl nofun
    | none => exact iff_of_false nofun fun h => h rfl

end Verdict

namespace Session

/-- The session went by the verdict. -/
inductive Received (session : Session) : Verdict → Except Failure (Session × Reception) → Prop
  | silent : Received session .silent (.ok (session, .unchanged))
  | accepted (next : Session) (reception : Reception) (known : ∀ text, reception ≠ .rejected text) :
      Received session (.accepted next.settings) (.ok (next, reception))
  | rejected (report : Report) :
      Received session (.rejected report) (.ok (session, .rejected report.text))
  | failed (failure : Failure) : Received session (.failed failure) (.error failure)

theorem received (platform : Platform) (session : Session) (sent : Json) :
    Received session (Verdict.ofSent platform sent) (session.receive platform sent) := by
  rw [Verdict.ofSent, receive]
  split
  · exact .silent
  · rw [Settings.load]
    cases Settings.standard.change? platform (sectionOf sent) with
    | ok change =>
      cases change with
      | none =>
        refine Received.accepted ⟨none⟩ _ ?_
        intro text
        split <;> nofun
      | some chosen => exact Received.accepted ⟨some chosen⟩ .accepted nofun
    | error failure =>
      show Received session (Verdict.ofLoad (.error failure)) <|
        match failure.report? with
        | some report => .ok (session, .rejected report.text)
        | none => .error failure
      rw [Verdict.ofLoad]
      split
      · exact .rejected _
      · exact .failed failure

theorem Received.eq_ok_iff {session : Session} {verdict : Verdict}
    {result : Except Failure (Session × Reception)} (h : Received session verdict result) :
    (∃ next reception, result = .ok (next, reception)) ↔ verdict.failed? = none := by
  cases h with
  | silent => exact iff_of_true ⟨_, _, rfl⟩ rfl
  | accepted next reception known => exact iff_of_true ⟨_, _, rfl⟩ rfl
  | rejected report => exact iff_of_true ⟨_, _, rfl⟩ rfl
  | failed failure => exact iff_of_false nofun nofun

/-- A session takes settings or gives the text of a report, unless loading raises. -/
theorem receive_eq_ok_iff {platform : Platform} {session : Session} {sent : Json} :
    (∃ next reception, session.receive platform sent = .ok (next, reception)) ↔
      sent.isVacant = true ∨ ¬ Raises (Settings.standard.load platform (sectionOf sent)) := by
  rw [(session.received platform sent).eq_ok_iff, Verdict.ofSent]
  split
  · next hvacant => exact iff_of_true rfl (.inl hvacant)
  · next hvacant => rw [or_iff_right hvacant, Verdict.failed?_ofLoad_eq_none_iff]

end Session

end TypeMismatch
