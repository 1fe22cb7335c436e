import TypeMismatch.Terminal.Run

/-!
# The program

Reads standard input and the file with settings, runs the task, and writes what it gives.
-/

namespace TypeMismatch.Terminal

/-- The lines that show how the program is used. -/
def usageLines : List String :=
  s!"usage: {programName} [-h] [-V] command ..." ::
    commands.map fun command =>
      "  " ++ CommandLine.joined ", " command.names

def Task.readsInput : Task → Bool
  | .prettify message _ => message.isNone
  | .extract message _ _ => message.isNone
  | .format expression _ => expression.isNone
  | .summarize expression => expression.isNone
  | _ => false

/-- Reads a stream to its end. -/
partial def readAll (stream : IO.FS.Stream) (sofar : String) : IO String := do
  let line ← stream.getLine
  if line.isEmpty then return sofar else readAll stream (sofar ++ line)

/-- Why the system did not read a file. -/
def faultOf : IO.Error → FileFault
  | .inappropriateType .. => .isDirectory
  | _ => .missing

def readContent (path : String) : IO (Except FileFault ByteArray) := do
  try
    return .ok (← IO.FS.readBinFile path)
  catch error => return .error (faultOf error)

/-- What the program finds around it when it is to run an invocation. -/
def environment (i : Invocation) : IO Environment := do
  let stdin ← if i.task.readsInput then readAll (← IO.getStdin) "" else pure ""
  let content ←
    match i.path? with
    | some path => readContent (Files.Path.ofText path).text
    | none => pure (.error .missing)
  return {
    platform := Platform.bare,
    stdin := stdin,
    readFile := fun _ => content,
    terminal := ← (← IO.getStdout).isTty,
    noColor := ← IO.getEnv "NO_COLOR" }

/-- What the program finds around it when it has nothing to read. -/
def bareEnvironment : Environment := ⟨Platform.bare, "", fun _ => .error .missing, false, none⟩

/-- Writes how the program ended; gives its exit code. -/
def report (ending : Ending) : IO UInt32 := do
  match ending with
  | .output output =>
    IO.print output.stdout
    IO.eprint output.stderr
    return UInt32.ofNat output.exit
  | .usage =>
    IO.print (written usageLines)
    return UInt32.ofNat exitOk
  | .misuse line =>
    IO.eprintln line
    return UInt32.ofNat exitRefused
  | .failed _ =>
    IO.eprintln s!"{programName}: error: the file with settings cannot be used"
    return UInt32.ofNat exitNo

end TypeMismatch.Terminal

open TypeMismatch.Terminal in
/-- Runs the program. -/
def main (arguments : List String) : IO UInt32 := do
  let environment ←
    match Invocation.read arguments with
    | .ok invocation => environment invocation
    | .error _ => pure bareEnvironment
  let time ← IO.monoMsNow
  report (run environment s!"{time}" arguments)
