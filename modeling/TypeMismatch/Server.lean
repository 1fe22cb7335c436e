import TypeMismatch.Session

/-!
# The server

A server passes what an editor sends on to its session, and shows a message for settings that were
rejected.
-/

namespace TypeMismatch

namespace Program

def version : String := "0.3.0"

end Program

namespace Server

/-- The name under which a server introduces itself. -/
def name : String := "tsprettify-lsp"

/-- The version under which a server introduces itself. -/
def version : String := s!"v{Program.version}"

def commands : List String := Request.all.map Request.name

/-- What an editor sends. -/
inductive Event where
  /-- The first message, with options that may be settings. -/
  | opening (options : Json)
  | ready
  | settings (sent : Json)
  | request (request : Request) (arguments : List Json)

/-- A message shown to the reader, with its type. -/
structure Message where
  type : Nat
  text : String
  deriving DecidableEq

def errorType : Nat := 1

/-- The message for settings that were rejected. -/
def messageFor : Reception → List Message
  | .rejected text => [⟨errorType, s!"tsprettify: {text}"⟩]
  | _ => []

/-- What a server does about an event: the session afterwards, the answer, and the messages shown.
-/
structure Reaction where
  session : Session
  answer : Except Failure Json
  shown : List Message

/-- Takes settings. -/
def take (platform : Platform) (session : Session) (sent : Json) : Reaction :=
  match session.receive platform sent with
  | .ok (next, reception) => ⟨next, .ok .null, messageFor reception⟩
  | .error failure => ⟨session, .error failure, []⟩

def react (platform : Platform) (session : Session) : Event → Reaction
  | .opening options => take platform session options
  | .ready => ⟨session, .ok .null, []⟩
  | .settings sent => take platform session sent
  | .request request arguments => ⟨session, session.answer request arguments, []⟩

def run (platform : Platform) (session : Session) : List Event → List Reaction
  | [] => []
  | event :: rest =>
    let reaction := react platform session event
    reaction :: run platform reaction.session rest

end Server

end TypeMismatch
