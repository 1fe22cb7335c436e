import TypeMismatch.Text.Blank
import TypeMismatch.Text.Letter

/-!
# Array types in short form

`Array<T>` is shown as `T[]`, and `T` gets parentheses when it is not a single operand.  The work
goes from the inside out: a round shortens every array whose argument holds no angle bracket, and
rounds follow as long as they change something.  Each round makes the text shorter, so the
length bounds the number of rounds.
-/

namespace TypeMismatch.Summary

/-- Does the character open one of the four kinds of brackets? -/
def isOpener (c : Char) : Bool := c == '<' || c == '(' || c == '[' || c == '\x7b'

/-- Does the character close one of the four kinds of brackets? -/
def isCloser (c : Char) : Bool := c == '>' || c == ')' || c == ']' || c == '\x7d'

/-- Is there a blank or an operator outside of the brackets, of which `depth` are open? -/
def hasOperatorFrom (depth : Nat) : List Char → Bool
  | [] => false
  | c :: rest =>
    if isOpener c then hasOperatorFrom (depth + 1) rest
    else if isCloser c then hasOperatorFrom (depth - 1) rest
    else (depth == 0 && (c == ' ' || c == '|' || c == '&')) || hasOperatorFrom depth rest

/-- Is there a blank or an operator outside of all brackets? -/
def hasOperator (cs : List Char) : Bool := hasOperatorFrom 0 cs

/-- The short form of an array of the given items. -/
def shortArray (items : List Char) : List Char :=
  let inner := Text.trim items
  (if hasOperator inner then '(' :: (inner ++ [')']) else inner) ++ ['[', ']']

/-- Does the character end the argument of an innermost array? -/
def isAngle (c : Char) : Bool := c == '<' || c == '>'

/-- An innermost array at the start of a text: its argument, and the text after it. -/
def innermostArray? : List Char → Option (List Char × List Char)
  | 'A' :: 'r' :: 'r' :: 'a' :: 'y' :: '<' :: rest =>
    let items := rest.takeWhile fun c => !isAngle c
    match rest.dropWhile fun c => !isAngle c with
    | '>' :: after => if items.isEmpty then none else some (items, after)
    | _ => none
  | _ => none

/-- One round over a text; `inWord` says that the character before it belongs to a word, so that no
word begins here.  Each step takes at least one character, so the length is enough fuel. -/
def collapseFrom : (fuel : Nat) → (inWord : Bool) → List Char → List Char
  | 0, _, cs => cs
  | _ + 1, _, [] => []
  | fuel + 1, inWord, c :: rest =>
    match (if inWord then none else innermostArray? (c :: rest)) with
    | some (items, after) => shortArray items ++ collapseFrom fuel false after
    | none => c :: collapseFrom fuel (Text.isWordChar c) rest

def collapseOnce (cs : List Char) : List Char := collapseFrom cs.length false cs

/-- Rounds until nothing changes. -/
def collapseRounds : (fuel : Nat) → List Char → List Char
  | 0, cs => cs
  | fuel + 1, cs =>
    let next := collapseOnce cs
    if next = cs then cs else collapseRounds fuel next

/-- The text with its arrays in short form. -/
def collapseArrays (cs : List Char) : List Char := collapseRounds (cs.length + 1) cs

end TypeMismatch.Summary
