import TypeMismatch.CommandLine.Reading

/-!
# What the program is asked to do

A command line names a task and its input.  Some options are common to all tasks; each task has its
own options and words beside them.
-/

namespace TypeMismatch.Terminal

open CommandLine

/-- What the program can do, with what it needs; an input that is not given is read from standard
input. -/
inductive Task where
  | prettify (message : Option String) (code : Option OptionValue)
  | extract (message : Option String) (code : Option OptionValue) (json : Bool)
  | format (expression : Option String) (check : Bool)
  | diff (actual expected : String)
  | summarize (expression : Option String)
  | templates
  deriving DecidableEq

/-- A task, and how to go about it. -/
structure Invocation where
  task : Task
  /-- The path of a file with settings. -/
  config : Option OptionValue
  noColor : Bool
  verbose : Bool
  deriving DecidableEq

def programName : String := "tsprettify"

def versionOption : OptionSpec := ⟨["-V", "--version"], .version⟩

/-- The option for a file with settings. -/
def configOption : OptionSpec := ⟨["-c", "--config"], .text⟩

/-- The option for output without colors. -/
def noColorOption : OptionSpec := ⟨["--no-color"], .flag⟩

def verboseOption : OptionSpec := ⟨["-v", "--verbose"], .flag⟩

def codeOption : OptionSpec := ⟨["--code"], .text⟩

def jsonOption : OptionSpec := ⟨["--json"], .flag⟩

/-- The option to check an expression and not to lay it out. -/
def checkOption : OptionSpec := ⟨["--check"], .flag⟩

/-- The options that every task takes. -/
def commonOptions : List OptionSpec := [.help, configOption, noColorOption, verboseOption]

def messageSlot : String := "message"

/-- The name of the slot for a type expression. -/
def expressionSlot : String := "type_expr"

/-- The name of the slot for the actual type. -/
def actualSlot : String := "actual"

/-- The name of the slot for the expected type. -/
def expectedSlot : String := "expected"

/-- A command: its name and its other names, the options and words it takes beside the common ones,
and the task they describe.  -/
structure Command where
  name : String
  others : List String
  options : List OptionSpec
  slots : List Slot
  task : Given → Task

def commands : List Command :=
  [ ⟨"prettify", ["p"], [codeOption], [.maybe messageSlot], fun given =>
      .prettify (given.word? messageSlot) (given.value? codeOption.key)⟩,
    ⟨"extract", ["x"], [codeOption, jsonOption], [.maybe messageSlot], fun given =>
      .extract (given.word? messageSlot) (given.value? codeOption.key)
        (given.has jsonOption.key)⟩,
    ⟨"format", ["fmt"], [checkOption], [.maybe expressionSlot], fun given =>
      .format (given.word? expressionSlot) (given.has checkOption.key)⟩,
    ⟨"diff", ["d"], [], [.one actualSlot, .one expectedSlot], fun given =>
      .diff ((given.word? actualSlot).getD "") ((given.word? expectedSlot).getD "")⟩,
    ⟨"summarize", ["s"], [], [.maybe expressionSlot], fun given =>
      .summarize (given.word? expressionSlot)⟩,
    ⟨"templates", [], [], [], fun _ => .templates⟩ ]

def Command.names (c : Command) : List String := c.name :: c.others

def Command.grammar (c : Command) : Grammar := ⟨commonOptions ++ c.options, c.slots⟩

def Command.ofName? (name : String) : Option Command :=
  commands.find? fun command => command.names.contains name

/-- What the program takes. -/
def grammar : Grammar :=
  ⟨[.help, versionOption], [.command "command" (commands.flatMap Command.names)]⟩

/-- Why a command line gives no task. -/
inductive Refusal where
  /-- The usage is shown, since it was asked for or nothing was. -/
  | usage
  /-- The version is shown. -/
  | version
  /-- The command line misses the grammar of the program with the given name. -/
  | misuse (program : String) (fault : Misuse)

/-- Why the program with the given name stops reading. -/
def Refusal.ofStop (program : String) : Stop → Refusal
  | .help => .usage
  | .version => .version
  | .misuse fault => .misuse program fault

/-- Nothing may be left over. -/
def refuseExtras (program : String) (extras : List String) : Except Refusal Unit :=
  if extras.isEmpty then .ok () else .error (.misuse program (.unknownArguments extras))

/-- The invocation that a command and what was given to it describe. -/
def Invocation.ofGiven (command : Command) (given : Given) : Invocation where
  task := command.task given
  config := given.value? configOption.key
  noColor := given.has noColorOption.key
  verbose := given.has verboseOption.key

/-- Reads a command line. -/
def Invocation.read (arguments : List String) : Except Refusal Invocation := do
  let (given, extras) ← (CommandLine.read grammar arguments).mapError (Refusal.ofStop programName)
  match given.command.bind fun (name, rest) => (Command.ofName? name).map fun c => (c, rest) with
  | none => do
    refuseExtras programName extras
    .error .usage
  | some (command, rest) => do
    let program := s!"{programName} {command.name}"
    let (inner, more) ←
      (CommandLine.read command.grammar rest).mapError (Refusal.ofStop program)
    refuseExtras programName (extras ++ more)
    return Invocation.ofGiven command inner

end TypeMismatch.Terminal
