import TypeMismatch.Diagnostic
import TypeMismatch.Settings.Merge

/-!
# A session with an editor

A session holds settings and answers commands.  New settings are always put on top of the standard
ones, so they never add up; settings that are refused change nothing.  Commands change nothing
either.
-/

namespace TypeMismatch

/-- What an editor can ask for. -/
inductive Request where
  | prettify
  | extract
  | format
  | diff
  | summarize
  | oneLine
  deriving DecidableEq

namespace Request

def name : Request → String
  | .prettify => "tsPrettify.prettify"
  | .extract => "tsPrettify.extract"
  | .format => "tsPrettify.format"
  | .diff => "tsPrettify.diff"
  | .summarize => "tsPrettify.summarize"
  | .oneLine => "tsPrettify.virtualText"

def all : List Request := [.prettify, .extract, .format, .diff, .summarize, .oneLine]

def ofName? (name : String) : Option Request := all.find? (·.name == name)

/-- The arguments of a request may come one by one or in a single array. -/
def spread : List Json → List Json
  | [.array items] => items
  | arguments => arguments

/-- An argument as a text; one that is missing or null is empty. -/
def textAt (arguments : List Json) (index : Nat) : Except Failure String :=
  match arguments[index]? with
  | none => .ok ""
  | some .null => .ok ""
  | some value => value.written

/-- The message that an object gives; one that says nothing is empty. -/
def messageOf (members : Entries Json) : Except Failure String :=
  let message := Json.member members "message"
  if message.isVacant then .ok "" else message.written

/-- The message and the code that the arguments give: one by one, or as members of an object. -/
def messageAndCode (arguments : List Json) : Except Failure (String × Json) :=
  match arguments with
  | .object members :: _ => do return (← messageOf members, Json.member members "code")
  | _ => do return (← textAt arguments 0, arguments[1]?.getD .null)

/-- A message and a code by which types can be looked for.  The code has to have a plain form, but
it is not looked at when there is no message. -/
def query (arguments : List Json) : Except Failure (String × Json) := do
  let (message, code) ← messageAndCode arguments
  if !message.isEmpty then discard code.written
  return (message, code)

def labelsValue (labels : Labels) : Json := .array [.string labels.actual, .string labels.expected]

def mismatchMembers (m : Mismatch) : Entries Json :=
  [ ("template", .string m.template),
    ("labels", labelsValue m.labels),
    ("actual", .string m.actual),
    ("expected", .string m.expected) ]

/-- Two texts as an array. -/
def sidesValue (sides : Sides) : Json := .array [.string sides.1, .string sides.2]

/-- The types that a message compares, as an answer. -/
def mismatchValue : Option Mismatch → Json
  | some m => .object (mismatchMembers m)
  | none => .null

def answer (s : Settings) (request : Request) (arguments : List Json) : Except Failure Json := do
  let arguments := spread arguments
  match request with
  | .prettify =>
    let (message, code) ← query arguments
    return .string (Rendering.prettify s message code)
  | .extract =>
    let (message, code) ← query arguments
    return mismatchValue (Rendering.find? s message code)
  | .format => return .string (Layout.format s.style (← textAt arguments 0))
  | .diff => return sidesValue (Edit.diff (← textAt arguments 0) (← textAt arguments 1))
  | .summarize => return .string (Summary.summarize (← textAt arguments 0))
  | .oneLine =>
    let (message, code) ← query arguments
    return .string (Rendering.oneLine s message code)

end Request

/-- A session: the settings that have been accepted last, or none while the standard ones are in
force. -/
structure Session where
  chosen : Option Settings

/-- What became of settings that an editor sent. -/
inductive Reception where
  /-- They say nothing, or nothing that differs from what is in force. -/
  | unchanged
  | accepted
  | rejected (message : String)
  deriving DecidableEq

namespace Session

def start (chosen : Option Settings) : Session := ⟨chosen⟩

def settings (s : Session) : Settings := s.chosen.getD Settings.standard

/-- The name of the member under which the settings may stand. -/
def sectionName : String := "tsPrettify"

/-- The part of what an editor sends that holds the settings. -/
def sectionOf (sent : Json) : Json :=
  match sent with
  | .object members =>
    match Entries.get? sectionName members with
    | some (.object inner) => .object inner
    | _ => sent
  | _ => sent

/-- Takes settings that an editor sent. -/
def receive (platform : Platform) (s : Session) (sent : Json) :
    Except Failure (Session × Reception) :=
  if sent.isVacant then .ok (s, .unchanged)
  else
    match Settings.standard.change? platform (sectionOf sent) with
    | .ok none => .ok (⟨none⟩, if s.chosen.isNone then .unchanged else .accepted)
    | .ok (some chosen) => .ok (⟨some chosen⟩, .accepted)
    | .error failure =>
      match failure.report? with
      | some report => .ok (s, .rejected report.text)
      | none => .error failure

def answer (s : Session) (request : Request) (arguments : List Json) : Except Failure Json :=
  request.answer s.settings arguments

end Session

end TypeMismatch
