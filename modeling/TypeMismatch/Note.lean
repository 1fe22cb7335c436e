import TypeMismatch.Rendering

/-!
# Notes

A reader who asks for them is told what happened on the way: how many templates the settings have,
which of them matched, and what was cut or left out because it was too long.  The notes of an
operation are computed from its input, beside its result.
-/

namespace TypeMismatch

/-- Something that happened on the way. -/
inductive Note where
  | loaded (templates : Nat)
  | matched (template : String)
  | unmatched (code : String)
  | truncated (length limit : Nat)
  | unaligned (left right limit : Nat)

namespace Note

/-- The part of the program that a note comes from. -/
def source : Note → String
  | .loaded _ => "tsprettify.config"
  | .matched _ => "tsprettify.extractor"
  | .unmatched _ => "tsprettify.extractor"
  | .truncated _ _ => "tsprettify.core.lexer"
  | .unaligned _ _ _ => "tsprettify.core.aligner"

def message : Note → String
  | .loaded templates => s!"Loaded configuration with {templates} templates"
  | .matched template => s!"Message matched template '{template}'"
  | .unmatched code => s!"No template matched message (code={code})"
  | .truncated length limit => s!"Type expression of {length} characters truncated to {limit}"
  | .unaligned left right limit =>
    s!"Skipping alignment of {left} x {right} tokens (cap {limit})"

/-- The line that shows a note, given the time. -/
def line (time : String) (n : Note) : String := s!"{time} [DEBUG] {n.source}: {n.message}"

def onSettings (s : Settings) : List Note := [.loaded s.templates.templates.length]

/-- The notes on looking for types in a message. -/
def onSearch (s : Settings) (message : String) (code : Json) : List Note :=
  if message.isEmpty then []
  else
    match Rendering.find? s message code with
    | some m => [.matched m.template]
    | none => (code.plain?.map Note.unmatched).toList

/-- The notes on reading the tokens of an expression. -/
def onTokens (text : String) : List Note :=
  if Token.exceeds Token.maxInputLength text.toList then
    [.truncated text.length Token.maxInputLength]
  else []

/-- The notes on comparing two expressions. -/
def onDiff (a b : String) : List Note :=
  let left := (Token.tokenize a).length
  let right := (Token.tokenize b).length
  let skipped : List Note :=
    if Edit.maxItems < left || Edit.maxItems < right then [.unaligned left right Edit.maxItems]
    else []
  onTokens a ++ onTokens b ++ skipped

/-- The notes on showing the block of a mismatch. -/
def onBlock (s : Settings) (m : Mismatch) : List Note :=
  if s.markDifferences then onDiff m.actual m.expected else []

end Note

end TypeMismatch
