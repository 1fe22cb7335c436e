import TypeMismatch.Files.Path
import TypeMismatch.Json.Reader
import TypeMismatch.Settings.Merge

/-!
# Settings from a file

A file holds overrides as one JSON object.  Its text is UTF-8, and each line ending counts as a
single newline.  Faults of the text are reported under the path of the file.
-/

namespace TypeMismatch.Settings

/-- The overrides that the text of a file gives. -/
def readOverrides (platform : Platform) (path : String) (text : List Char) :
    Except Failure Json :=
  match Json.read platform text with
  | .error (.fault cause position) =>
    .error (.setting (some path) (.invalidJson (Json.faultMessage text cause position)))
  | .error .longNumeral => .error .longNumeral
  | .error .loneSurrogate => .error .loneSurrogate
  | .error .tooDeep => .error .tooDeep
  | .ok (.object members) => .ok (.object members)
  | .ok _ => .error (.setting (some path) .notAnObject)

def decode (content : ByteArray) : Except Failure (List Char) :=
  match String.fromUTF8? content with
  | some text => .ok (Text.normalizeNewlines text.toList)
  | none => .error (.file .undecodable)

/-- Puts the overrides of a file on top of settings. -/
def loadContent (platform : Platform) (base : Settings) (path : String) (content : ByteArray) :
    Except Failure Settings := do
  base.load platform (← readOverrides platform path (← decode content))

/-- Puts the overrides of the file at a path on top of settings; `readFile` gives the content of
files. -/
def loadFile (platform : Platform) (base : Settings)
    (readFile : Files.Path → Except FileFault ByteArray) (path : String) :
    Except Failure Settings :=
  let path := Files.Path.ofText path
  match readFile path with
  | .ok content => base.loadContent platform path.text content
  | .error fault => .error (.file fault)

end TypeMismatch.Settings
