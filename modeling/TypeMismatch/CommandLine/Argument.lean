import TypeMismatch.CommandLine.Grammar
import TypeMismatch.Text.Digit

/-!
# Options and words

Each argument of a command line is an option, a word, or the mark after which all arguments are
words.  A long option may be cut short as long as it stays the only one with that beginning, and may
bring its value behind an equals sign.  A short option may bring its value, or further short
options, right behind its letter.  What looks like a negative number or holds a blank is a word,
unless it is an option.
-/

namespace TypeMismatch.CommandLine

/-- An option found in an argument, with what comes behind its name in the same argument, an equals
sign in between left out. -/
structure Found where
  option : OptionSpec
  name : String
  attached : Option (List Char)

inductive Class where
  | marker
  | word
  /-- An option, or what looks like one but is none. -/
  | option (found : Option Found)

structure Argument where
  text : String
  cls : Class

/-- The mark after which all arguments are words. -/
def marker : String := "--"

/-- Is this the character with which options begin? -/
def isDash (c : Char) : Bool := c == '-'

/-- The text up to its first equals sign and the text behind it. -/
def atEquals? : List Char → Option (List Char × List Char)
  | [] => none
  | c :: rest =>
    if c == '=' then some ([], rest)
    else (atEquals? rest).map fun (name, value) => (c :: name, value)

/-- The text without a newline at its end. -/
def withoutNewline (cs : List Char) : List Char :=
  if cs.getLast? == some '\n' then cs.dropLast else cs

/-- A numeral: digits, or digits with a point among them and at least one behind it. -/
def isNumeral (cs : List Char) : Bool :=
  let rest := cs.dropWhile Text.isDigit
  match rest with
  | [] => !cs.isEmpty
  | c :: fraction => c == '.' && !fraction.isEmpty && fraction.all Text.isDigit

/-- Is this a negative number?  A newline may follow it. -/
def isNegativeNumber (cs : List Char) : Bool :=
  match cs with
  | '-' :: rest => isNumeral rest || isNumeral (withoutNewline rest)
  | _ => false

/-- The options whose names begin like a long option. -/
def longOptions (g : Grammar) (cs : List Char) : List Found :=
  let (start, attached) :=
    match atEquals? cs with
    | some (name, value) => (name, some value)
    | none => (cs, none)
  (g.table.filter fun entry => start.isPrefixOf entry.1.toList).map fun (name, option) =>
    ⟨option, name, attached⟩

/-- The short option with which an argument begins. -/
def shortOptions (g : Grammar) : List Char → List Found
  | dash :: letter :: attached =>
    let name := String.ofList [dash, letter]
    match g.find? name with
    | some option => [⟨option, name, some attached⟩]
    | none => []
  | _ => []

/-- The options that an argument may stand for, if it is not the name of one. -/
def possibleOptions (g : Grammar) (cs : List Char) : List Found :=
  match cs with
  | _ :: second :: _ => if isDash second then longOptions g cs else shortOptions g cs
  | _ => []

/-- The option whose name is all of an argument, or all before its first equals sign. -/
def exactOption? (g : Grammar) (cs : List Char) : Option Found :=
  match g.find? (String.ofList cs) with
  | some option => some ⟨option, String.ofList cs, none⟩
  | none =>
    match atEquals? cs with
    | none => none
    | some (name, value) =>
      (g.find? (String.ofList name)).map fun option =>
        ⟨option, String.ofList name, some value⟩

/-- What an argument is that begins with a dash and has more characters. -/
def classifyDashed (g : Grammar) (cs : List Char) : Except Misuse Class :=
  match exactOption? g cs with
  | some found => .ok (.option (some found))
  | none =>
    match possibleOptions g cs with
    | [found] => .ok (.option (some found))
    | [] => .ok (if isNegativeNumber cs || cs.contains ' ' then .word else .option none)
    | several => .error (.ambiguousOption (String.ofList cs) (several.map Found.name))

def classify (g : Grammar) (text : String) : Except Misuse Class :=
  match text.toList with
  | first :: second :: rest =>
    if isDash first then classifyDashed g (first :: second :: rest) else .ok .word
  | _ => .ok .word

/-- What the arguments of a command line are. -/
def classifyAll (g : Grammar) : List String → Except Misuse (List Argument)
  | [] => .ok []
  | text :: rest =>
    if text == marker then .ok (⟨text, .marker⟩ :: rest.map fun word => ⟨word, .word⟩)
    else do
      let cls ← classify g text
      return ⟨text, cls⟩ :: (← classifyAll g rest)

namespace Argument

/-- Is the argument an option, or does it look like one? -/
def isOption (a : Argument) : Bool :=
  match a.cls with
  | .option _ => true
  | _ => false

def isWord (a : Argument) : Bool :=
  match a.cls with
  | .word => true
  | _ => false

/-- Is the argument the mark after which all arguments are words? -/
def isMarker (a : Argument) : Bool :=
  match a.cls with
  | .marker => true
  | _ => false

end Argument

end TypeMismatch.CommandLine
