import TypeMismatch.CommandLine.Argument
import TypeMismatch.Entries

/-!
# Reading a command line

Arguments are taken from left to right: an option with its value, or words for the slots that are
still empty.  What an option or a word does happens at once, so the first argument that ends the
program or misses the grammar decides.  Options that are not known and words that find no slot are
left over.

The first mark among the arguments of an option or a slot is left out.  So an option that has nothing
but the mark in the place of its value is given nothing, and so is a slot.
-/

namespace TypeMismatch.CommandLine

inductive OptionValue where
  /-- No text: the option takes none, or the mark of words stands in its place. -/
  | nothing
  | text (content : String)
  deriving DecidableEq

namespace OptionValue

def ofText (content : String) : OptionValue :=
  if content == marker then .nothing else .text content

def text? : OptionValue → Option String
  | .nothing => none
  | .text content => some content

end OptionValue

/-- What a command line gives: the options with their values, the words, and the command with the
arguments behind it. -/
structure Given where
  options : Entries OptionValue
  words : Entries String
  command : Option (String × List String)

namespace Given

def nothing : Given := ⟨[], [], none⟩

def has (given : Given) (key : String) : Bool := Entries.has key given.options

def value? (given : Given) (key : String) : Option OptionValue := Entries.get? key given.options

def word? (given : Given) (slot : String) : Option String := Entries.get? slot given.words

end Given

/-- Why reading ends before the end of the command line. -/
inductive Stop where
  | help
  | version
  | misuse (fault : Misuse)
  deriving DecidableEq

/-- The state of a reader: the slots that are empty, what was given, and what is left over. -/
structure Reader where
  slots : List Slot
  given : Given
  extras : List String

/-- An option that is to be taken, with its value. -/
structure Use where
  option : OptionSpec
  value : OptionValue

/-- What one argument with options says: the options that are complete, and the one whose value is
the next argument. -/
structure Cluster where
  uses : List Use
  open? : Option OptionSpec

namespace Cluster

/-- An option with nothing behind it in its argument. -/
def alone (o : OptionSpec) : Cluster :=
  if o.role.takesValue then ⟨[], some o⟩ else ⟨[⟨o, .nothing⟩], none⟩

/-- An option with its value behind it in its argument. -/
def complete (o : OptionSpec) (value : String) : Cluster := ⟨[⟨o, OptionValue.ofText value⟩], none⟩

/-- An option without a value, in front of others. -/
def after (o : OptionSpec) (c : Cluster) : Cluster := { c with uses := ⟨o, .nothing⟩ :: c.uses }

end Cluster

def isShort (name : String) : Bool :=
  match name.toList with
  | _ :: second :: _ => !isDash second
  | _ => false

def shortName (letter : Char) : String := String.ofList ['-', letter]

/-- Takes what stands behind the name of an option in the same argument: its value, or, behind a
short name that takes none, the letters of further short options.  A letter that is none of these is
the fault of the option before it. -/
def clusterOf (g : Grammar) (o : OptionSpec) (short : Bool) :
    List Char → Except Misuse Cluster
  | [] =>
    if o.role.takesValue then .ok (Cluster.complete o "") else .error (.unexpectedValue o.label "")
  | letter :: rest =>
    let value := String.ofList (letter :: rest)
    if o.role.takesValue then .ok (Cluster.complete o value)
    else if !short then .error (.unexpectedValue o.label value)
    else
      match g.find? (shortName letter) with
      | none => .error (.unexpectedValue o.label value)
      | some next =>
        match rest with
        | [] => .ok ((Cluster.alone next).after o)
        | more :: others => do return (← clusterOf g next true (more :: others)).after o

/-- The options that an argument says. -/
def Found.cluster (g : Grammar) (found : Found) : Except Misuse Cluster :=
  match found.attached with
  | none => .ok (Cluster.alone found.option)
  | some attached => clusterOf g found.option (isShort found.name) attached

/-- Does the option take the text as its value? -/
def checkText (o : OptionSpec) (content : String) : Except Stop Unit :=
  match o.role with
  | .integer =>
    match Text.readInteger? content.toList with
    | some _ => .ok ()
    | none => .error (.misuse (.notAnInteger o.label content))
  | .choice among =>
    if among.contains content then .ok ()
    else .error (.misuse (.notAChoice o.label content among))
  | _ => .ok ()

/-- Does the option take its value?  It always takes nothing. -/
def checkValue (use : Use) : Except Stop Unit :=
  match use.value with
  | .nothing => .ok ()
  | .text content => checkText use.option content

def Reader.takeOption (r : Reader) (use : Use) : Except Stop Reader :=
  match use.option.role with
  | .help => .error .help
  | .version => .error .version
  | _ => do
    checkValue use
    return { r with
      given := { r.given with options := Entries.put use.option.key use.value r.given.options } }

/-- Takes the options of an argument, the arguments behind it being given; says how many of these
are taken as values.  -/
def Reader.takeCluster (r : Reader) (c : Cluster) (behind : List Argument) :
    Except Stop (Reader × Nat) :=
  match c.open? with
  | none => do return (← c.uses.foldlM Reader.takeOption r, 0)
  | some option =>
    match behind with
    | ⟨value, .word⟩ :: _ => do
      let uses := c.uses ++ (Cluster.complete option value).uses
      return (← uses.foldlM Reader.takeOption r, 1)
    | _ => .error (.misuse (.missingValue option.label))

/-- The number of markers at the start of some arguments. -/
def markers (arguments : List Argument) : Nat := (arguments.takeWhile Argument.isMarker).length

/-- The number of arguments that a slot takes: words, and the markers around them. -/
def Slot.reach (slot : Slot) (arguments : List Argument) : Option Nat :=
  let before := markers arguments
  match arguments.drop before with
  | [] =>
    match slot with
    | .maybe _ => some before
    | _ => none
  | argument :: rest =>
    if argument.isWord then
      match slot with
      | .command _ _ => some arguments.length
      | _ => some (before + 1 + markers rest)
    else
      match slot with
      | .maybe _ => some before
      | _ => none

/-- The words among the arguments of a slot: the first marker is left out. -/
def slotWords (arguments : List Argument) : List String :=
  (arguments.map Argument.text).erase marker

/-- Puts the first of some words under a name; no words put nothing. -/
def Reader.putWord (r : Reader) (name : String) : List String → Reader
  | [] => r
  | word :: _ => { r with given := { r.given with words := Entries.put name word r.given.words } }

def Reader.fill (r : Reader) (slot : Slot) (arguments : List Argument) : Except Stop Reader :=
  match slot with
  | .one name => .ok (r.putWord name (slotWords arguments))
  | .maybe name => .ok (r.putWord name (slotWords arguments))
  | .command name among =>
    match arguments.map Argument.text with
    | [] => .ok r
    | word :: rest =>
      if among.contains word then
        .ok { r with given := { r.given with command := some (word, rest) } }
      else .error (.misuse (.notAChoice name word among))

/-- Fills slots, one after another, as long as there are arguments for them; says what is behind the
arguments that were taken. -/
def fillSlots (r : Reader) (arguments : List Argument) :
    List Slot → Except Stop (Reader × List Argument)
  | [] => .ok ({ r with slots := [] }, arguments)
  | slot :: slots =>
    match slot.reach arguments with
    | none => .ok ({ r with slots := slot :: slots }, arguments)
    | some n => do fillSlots (← r.fill slot (arguments.take n)) (arguments.drop n) slots

/-- Takes an argument that is an option or looks like one; says what is behind it. -/
def Reader.takeArgument (g : Grammar) (r : Reader) (argument : Argument)
    (behind : List Argument) : Except Stop (Reader × List Argument) :=
  match argument.cls with
  | .option (some found) => do
    let cluster ← (found.cluster g).mapError Stop.misuse
    let (r, taken) ← r.takeCluster cluster behind
    return (r, behind.drop taken)
  | _ => .ok ({ r with extras := r.extras ++ [argument.text] }, behind)

/-- Reads arguments up to the last option, and then the words behind it.  Each round takes an
argument, so their number bounds the rounds.  -/
def readFrom (g : Grammar) : (rounds : Nat) → Reader → List Argument → Except Stop Reader
  | 0, r, _ => .ok r
  | rounds + 1, r, arguments =>
    match arguments.span fun argument => !argument.isOption with
    | (_, []) => do
      let (r, behind) ← fillSlots r arguments r.slots
      return { r with extras := r.extras ++ behind.map Argument.text }
    | (words, option :: behind) => do
      let (filled, rest) ←
        if words.isEmpty then .ok (r, arguments) else fillSlots r arguments r.slots
      if rest.length < arguments.length then readFrom g rounds filled rest
      else
        let passed := { filled with extras := filled.extras ++ words.map Argument.text }
        let (next, rest) ← passed.takeArgument g option behind
        readFrom g rounds next rest

/-- The name of a slot that has to be filled. -/
def Slot.required? : Slot → Option String
  | .one name => some name
  | _ => none

/-- Reads a command line: what it gives, and what is left over. -/
def read (g : Grammar) (arguments : List String) : Except Stop (Given × List String) := do
  let classified ← (classifyAll g arguments).mapError Stop.misuse
  let r ← readFrom g (classified.length + 1) ⟨g.slots, Given.nothing, []⟩ classified
  match r.slots.filterMap Slot.required? with
  | [] => return (r.given, r.extras)
  | missing => .error (.misuse (.missingWords missing))

end TypeMismatch.CommandLine
