/-!
# Reports

A report is a message, and what it is about if that is known.  The text of a report puts the context
in brackets before the message.
-/

namespace TypeMismatch

/-- A message and what it is about. -/
structure Report where
  message : String
  context : Option String
  deriving DecidableEq

namespace Report

/-- A context that says nothing counts as none. -/
def present (context : Option String) : Option String := context.filter fun text => !text.isEmpty

def text (r : Report) : String :=
  match present r.context with
  | some context => s!"[{context}] {r.message}"
  | none => r.message

/-- The context of a report about a template with the given name. -/
def templateContext (name : Option String) : Option String :=
  (present name).map fun text => s!"template '{text}'"

end Report

end TypeMismatch
