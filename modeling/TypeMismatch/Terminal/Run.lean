import TypeMismatch.Json.Writer
import TypeMismatch.Note
import TypeMismatch.Server
import TypeMismatch.Settings.File
import TypeMismatch.Terminal.Invocation
import TypeMismatch.Terminal.Listing

/-!
# Running a task

A task runs under settings and gives lines for standard output, lines for standard error, notes, and
an exit code: zero for success, one when nothing was found or an expression is not laid out, two
when the settings cannot be used.  A task whose settings are refused does not run.
-/

namespace TypeMismatch.Terminal

/-- All went well. -/
def exitOk : Nat := 0

/-- Nothing was found, or an expression is not laid out. -/
def exitNo : Nat := 1

/-- The settings or the command line cannot be used. -/
def exitRefused : Nat := 2

/-- What a task gives. -/
structure Result where
  exit : Nat
  out : List String
  err : List String
  notes : List Note

/-- What the program finds around it. -/
structure Environment where
  platform : Platform
  stdin : String
  /-- The content of the file at a path. -/
  readFile : Files.Path → Except FileFault ByteArray
  /-- Is standard output a terminal? -/
  terminal : Bool
  /-- The wish of the reader for output without colors. -/
  noColor : Option String

/-- The colors that are used by themselves. -/
def Environment.palette (e : Environment) : Palette := Palette.choose e.terminal e.noColor

/-- The text on standard input, without the blanks around it. -/
def Environment.input (e : Environment) : String :=
  String.ofList (Text.trim (Text.normalizeNewlines e.stdin.toList))

/-- A code from the command line; one that is given as nothing is an empty list. -/
def codeValue : Option CommandLine.OptionValue → Json
  | some (.text code) => .string code
  | some .nothing => .array []
  | none => .null

/-- Everything about a mismatch as JSON. -/
def renderingValue (r : Rendering) : Json :=
  .object (Request.mismatchMembers r.mismatch ++
    [ ("renderings", .object
        [ ("verbose", Request.sidesValue r.verbose),
          ("diff", Request.sidesValue r.diff),
          ("summary", Request.sidesValue r.summary) ]) ])

/-- Shows a message as a block. -/
def prettify (s : Settings) (p : Palette) (message : String) (code : Json) : Result where
  exit := exitOk
  out := [paintBlock p (Rendering.prettify s message code)]
  err := []
  notes := Note.onSearch s message code ++
    ((Rendering.find? s message code).map (Note.onBlock s)).getD []

/-- Shows the types that a message compares. -/
def extract (s : Settings) (p : Palette) (message : String) (code : Json) : Result :=
  let notes := Note.onSearch s message code
  match Rendering.find? s message code with
  | none => ⟨exitNo, [], [p.paint p.yellow "No template matched"], notes⟩
  | some m =>
    let lines :=
      [ p.paint p.gray "template:" ++ " " ++ m.template,
        p.paint p.cyan m.labels.actual ++ " " ++ m.actual,
        p.paint p.cyan m.labels.expected ++ " " ++ m.expected ]
    ⟨exitOk, lines, [], notes⟩

/-- Shows the types that a message compares, in every form, as JSON. -/
def extractJson (s : Settings) (message : String) (code : Json) : Result :=
  let notes := Note.onSearch s message code
  match Rendering.find? s message code with
  | none => ⟨exitNo, [String.ofList (Json.compact .null)], [], notes⟩
  | some m =>
    let value := renderingValue (Rendering.ofMismatch s m)
    ⟨exitOk, [value.indented], [], notes ++ Note.onDiff m.actual m.expected⟩

/-- Says whether an expression is laid out. -/
def check (s : Settings) (p : Palette) (expression : String) : Result :=
  if Layout.isFormatted s.style expression then
    ⟨exitOk, [p.paint p.green "[ok]" ++ " Already formatted"], [], []⟩
  else ⟨exitNo, [p.paint p.yellow "[!!]" ++ " Would reformat"], [], []⟩

/-- Shows two expressions with their differences marked. -/
def compare (p : Palette) (actual expected : String) : Result :=
  let (left, right) := Edit.diff actual expected
  ⟨exitOk, [paintDiff p left, paintDiff p right], [], Note.onDiff actual expected⟩

/-- Runs a task; `input` is what is read when the task brings no input. -/
def perform (s : Settings) (p : Palette) (input : String) : Task → Result
  | .prettify message code => prettify s p (message.getD input) (codeValue code)
  | .extract message code json =>
    if json then extractJson s (message.getD input) (codeValue code)
    else extract s p (message.getD input) (codeValue code)
  | .format expression checked =>
    if checked then check s p (expression.getD input)
    else ⟨exitOk, [Layout.format s.style (expression.getD input)], [], []⟩
  | .diff actual expected => compare p actual expected
  | .summarize expression => ⟨exitOk, [Summary.summarize (expression.getD input)], [], []⟩
  | .templates => ⟨exitOk, listTemplates p s.templates, [], []⟩

/-- The result when the settings cannot be used. -/
def refused (p : Palette) (message : String) : Result :=
  ⟨exitRefused, [], [p.paint p.red "Error:" ++ " " ++ message], []⟩

/-- The settings that an invocation asks for, and the notes on them.  Nothing is no path. -/
def settingsFor (e : Environment) :
    Option CommandLine.OptionValue → Except Failure (Settings × List Note)
  | none => .ok (Settings.standard, [])
  | some .nothing => .error .unusable
  | some (.text path) => do
    let s ← Settings.standard.loadFile e.platform e.readFile path
    return (s, Note.onSettings s)

/-- The path of the file with settings, if there is one. -/
def Invocation.path? (i : Invocation) : Option String := i.config.bind CommandLine.OptionValue.text?

/-- The message for settings that cannot be used, unless there is none for the failure. -/
def failureMessage? (path : Option String) (failure : Failure) : Option String :=
  match failure with
  | .file .missing => some ("Config file not found: " ++ (Files.Path.ofText (path.getD "")).text)
  | _ => failure.report?.map Report.text

def Invocation.run (e : Environment) (i : Invocation) : Except Failure Result :=
  let p := if i.noColor then Palette.plain else e.palette
  match settingsFor e i.config with
  | .ok (s, notes) =>
    let result := perform s p e.input i.task
    .ok { result with notes := notes ++ result.notes }
  | .error failure =>
    match failureMessage? i.path? failure with
    | some message => .ok (refused p message)
    | none => .error failure

/-- What the program writes, and its exit code. -/
structure Output where
  exit : Nat
  stdout : String
  stderr : String

/-- Lines, each with a newline at its end. -/
def written (lines : List String) : String :=
  String.ofList (lines.flatMap fun line => line.toList ++ ['\n'])

/-- The output for a result; notes come before other lines, and only if they were asked for. -/
def Result.output (time : String) (verbose : Bool) (r : Result) : Output where
  exit := r.exit
  stdout := written r.out
  stderr := written ((if verbose then r.notes.map (Note.line time) else []) ++ r.err)

def versionLine : String := s!"{programName} {Program.version}"

inductive Ending where
  | output (output : Output)
  /-- The usage is shown. -/
  | usage
  /-- The command line was not understood. -/
  | misuse (line : String)
  /-- A failure for which there is no message. -/
  | failed (failure : Failure)

def run (e : Environment) (time : String) (arguments : List String) : Ending :=
  match Invocation.read arguments with
  | .error .usage => .usage
  | .error .version => .output ⟨exitOk, written [versionLine], ""⟩
  | .error (.misuse program fault) => .misuse (fault.line program)
  | .ok invocation =>
    match invocation.run e with
    | .ok result => .output (result.output time invocation.verbose)
    | .error failure => .failed failure

end TypeMismatch.Terminal
