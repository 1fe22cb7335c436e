import TypeMismatch.Text.Blank
import TypeMismatch.Text.Quoted

/-!
# The grammar of a command line

A program takes options, which are known by their names, and words, which fill its slots one after
another.  This file holds the description of what a program takes, and the ways in which a command
line can miss it.
-/

namespace TypeMismatch.CommandLine

inductive Role where
  /-- Shows the usage and ends the program. -/
  | help
  /-- Shows the version and ends the program. -/
  | version
  /-- Is given or not. -/
  | flag
  /-- Takes a text. -/
  | text
  /-- Takes an integer. -/
  | integer
  /-- Takes one of some texts. -/
  | choice (among : List String)
  deriving DecidableEq

/-- Does an option take a value? -/
def Role.takesValue : Role → Bool
  | .text => true
  | .integer => true
  | .choice _ => true
  | _ => false

/-- An option with its names: a short name is one letter after a dash, a long one is a word after
two. -/
structure OptionSpec where
  names : List String
  role : Role
  deriving DecidableEq

/-- Texts with a separator between them. -/
def joined (sep : String) (parts : List String) : String :=
  String.ofList (Text.joinWith sep.toList (parts.map String.toList))

def OptionSpec.label (o : OptionSpec) : String := joined "/" o.names

/-- The name under which an option is asked for: its last one. -/
def OptionSpec.key (o : OptionSpec) : String := o.names.getLastD ""

/-- The option that shows the usage. -/
def OptionSpec.help : OptionSpec := ⟨["-h", "--help"], .help⟩

/-- A place for words. -/
inductive Slot where
  /-- Takes one word. -/
  | one (name : String)
  /-- Takes a word if there is one. -/
  | maybe (name : String)
  /-- Takes one of some words and all that follows it. -/
  | command (name : String) (among : List String)
  deriving DecidableEq

/-- What a program takes.  A slot that can stay empty comes last. -/
structure Grammar where
  options : List OptionSpec
  slots : List Slot

namespace Grammar

/-- The names of all options, each with its option. -/
def table (g : Grammar) : List (String × OptionSpec) :=
  g.options.flatMap fun option => option.names.map fun name => (name, option)

def find? (g : Grammar) (name : String) : Option OptionSpec :=
  (g.table.find? fun entry => entry.1 == name).map (·.2)

end Grammar

/-- How a command line misses the grammar. -/
inductive Misuse where
  | ambiguousOption (argument : String) (names : List String)
  | missingValue (label : String)
  | unexpectedValue (label value : String)
  | notAnInteger (label value : String)
  | notAChoice (label value : String) (among : List String)
  | missingWords (names : List String)
  | unknownArguments (arguments : List String)
  deriving DecidableEq

def Misuse.message : Misuse → String
  | .ambiguousOption argument names =>
    s!"ambiguous option: {argument} could match " ++ joined ", " names
  | .missingValue label => s!"argument {label}: expected one argument"
  | .unexpectedValue label value =>
    s!"argument {label}: ignored explicit argument " ++ Text.quote value
  | .notAnInteger label value => s!"argument {label}: invalid int value: " ++ Text.quote value
  | .notAChoice label value among =>
    s!"argument {label}: invalid choice: " ++ Text.quote value ++ " (choose from " ++
      joined ", " (among.map Text.quote) ++ ")"
  | .missingWords names => "the following arguments are required: " ++ joined ", " names
  | .unknownArguments arguments => "unrecognized arguments: " ++ joined " " arguments

/-- The line that reports a misuse of the program with the given name. -/
def Misuse.line (program : String) (fault : Misuse) : String :=
  s!"{program}: error: {fault.message}"

end TypeMismatch.CommandLine
