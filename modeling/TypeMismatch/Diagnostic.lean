import TypeMismatch.Rendering

/-!
# Diagnostics of an editor

A diagnostic that reports an error of the compiler is shown in a readable form if types are found in
its message.  Only its message, code, source and severity are looked at; all else is carried over as
it is.
-/

namespace TypeMismatch

/-- A range of a document, from a line and character to a line and character. -/
structure Range where
  startLine : Int
  startCharacter : Int
  endLine : Int
  endCharacter : Int
  deriving DecidableEq

/-- A diagnostic as an editor receives it. -/
structure Diagnostic where
  range : Range
  message : String
  severity : Option Int
  code : Json
  source : Option String
  /-- Where the code is described. -/
  link : Json
  tags : Json
  related : Json
  data : Json

namespace Diagnostic

def errorSeverity : Int := 1

/-- The sources whose diagnostics are those of the compiler. -/
def compilerSources : List String := ["tsserver", "typescript", "ts"]

/-- Is the source, in any case, one of the compiler's? -/
def isCompilerSource (source : String) : Bool :=
  compilerSources.contains (String.ofList (Text.lower source.toList))

def isCompilerError (d : Diagnostic) : Bool :=
  isCompilerSource (d.source.getD "") && d.severity == some errorSeverity

/-- The types that an error of the compiler compares. -/
def mismatch? (s : Settings) (d : Diagnostic) : Option Mismatch :=
  if d.isCompilerError then Rendering.find? s d.message d.code else none

/-- The diagnostic in readable form, if types are found in it. -/
def prettified? (s : Settings) (d : Diagnostic) : Option Diagnostic :=
  (d.mismatch? s).map fun m => { d with message := Rendering.blockOf s m }

/-- The diagnostic in readable form, or as it is. -/
def prettify (s : Settings) (d : Diagnostic) : Diagnostic := (d.prettified? s).getD d

/-- All diagnostics of a document, in readable form where there is one. -/
def prettifyAll (s : Settings) (ds : List Diagnostic) : List Diagnostic := ds.map (prettify s)

/-- The text of a diagnostic on one line.  The message of any other source is not touched. -/
def oneLine (s : Settings) (d : Diagnostic) : String :=
  if d.isCompilerError then Rendering.oneLine s d.message d.code else d.message

/-- What is shown over a range of a document. -/
structure Hover where
  value : String
  range : Range

def Hover.kind : String := "markdown"

/-- A line that opens or closes a part to be shown as it is. -/
def fence : String := "```"

/-- The hover for the first of the diagnostics in which types are found. -/
def hover? (s : Settings) (ds : List Diagnostic) : Option Hover :=
  ds.findSome? fun d => (d.mismatch? s).map fun m =>
    ⟨Rendering.inLines [fence, Rendering.blockOf s m, fence], d.range⟩

/-- The preview for the first of the diagnostics that has one. -/
def hint? (s : Settings) (ds : List Diagnostic) : Option String :=
  ds.findSome? fun d =>
    if d.isCompilerError then Rendering.preview? s d.message d.code else none

end Diagnostic

end TypeMismatch
