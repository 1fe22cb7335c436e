import TypeMismatch.Summary.Array

/-!
# Summaries on one line

Where there is room for a glance only, a type expression is cut short: an object type shows its
first members, a union its first alternatives, and any other expression its beginning.  A summary is
never longer than the expression.
-/

namespace TypeMismatch.Summary

/-- An expression of at most this length is its own summary. -/
def shortLimit : Nat := 25

/-- The greatest length of the beginning that is shown of a long expression. -/
def longLimit : Nat := 40

/-- The number of members or alternatives that are shown. -/
def maxItems : Nat := 3

/-- What stands for the part that is not shown. -/
def ellipsis : List Char := ['.', '.', '.']

/-- Splits a text at the bars outside of all brackets.  `depth` brackets are open, `part` are the
characters of the current part so far, and `last` is the character before; both lists have the last
one first.  -/
def alternativesFrom (depth : Nat) (last : Option Char) (part : List Char) :
    List Char → List (List Char)
  | [] => [part.reverse]
  | c :: rest =>
    if isOpener c then alternativesFrom (depth + 1) (some c) (c :: part) rest
    else if isCloser c then
      let inner := if c == '>' && last == some '=' then depth else depth - 1
      alternativesFrom inner (some c) (c :: part) rest
    else if c == '|' && depth == 0 then
      part.reverse :: alternativesFrom depth (some c) [] rest
    else alternativesFrom depth (some c) (c :: part) rest

/-- The alternatives of a union, without the blanks around them; empty ones are dropped. -/
def alternatives (cs : List Char) : List (List Char) :=
  ((alternativesFrom 0 none [] cs).map Text.trim).filter fun part => !part.isEmpty

/-- Can the character begin the name of a member? -/
def isNameStart (c : Char) : Bool := c == '$' || c == '_' || Text.isAsciiLetter c

/-- Can the character stand in the name of a member? -/
def isNamePart (c : Char) : Bool := c == '$' || Text.isWordChar c

/-- What follows the colon after the name of a member; the colon may follow a question mark. -/
def afterColon? : List Char → Option (List Char)
  | ':' :: rest => some rest
  | '?' :: ':' :: rest => some rest
  | _ => none

/-- The names of members in a text, as often as they occur.  A name runs up to the colon, so a run
without one holds no name.  Each step takes at least one character, so the length is enough fuel. -/
def memberNamesFrom : (fuel : Nat) → List Char → List (List Char)
  | 0, _ => []
  | _ + 1, [] => []
  | fuel + 1, c :: rest =>
    if isNameStart c then
      let name := c :: rest.takeWhile isNamePart
      let after := rest.dropWhile isNamePart
      match afterColon? after with
      | some next => name :: memberNamesFrom fuel next
      | none => memberNamesFrom fuel after
    else memberNamesFrom fuel rest

/-- The names of members in a text, each once, in the order of their first occurrence. -/
def memberNames (cs : List Char) : List (List Char) := (memberNamesFrom cs.length cs).eraseDups

/-- The first parts with a separator between them, and an ellipsis when there are more. -/
def firstItems (separator : List Char) (parts : List (List Char)) : List Char :=
  let shown := Text.joinWith separator (parts.take maxItems)
  if maxItems < parts.length then shown ++ separator ++ ellipsis else shown

/-- The summary of an object type, if it names a member. -/
def ofObject? (cs : List Char) : Option (List Char) :=
  let names := memberNames cs
  if names.isEmpty then none
  else some ('\x7b' :: ' ' :: (firstItems [',', ' '] names ++ [' ', '\x7d']))

/-- The summary of a union, if it has more than one alternative. -/
def ofUnion? (cs : List Char) : Option (List Char) :=
  let parts := alternatives cs
  if parts.length ≤ 1 then none else some (firstItems [' ', '|', ' '] parts)

/-- The text, cut when it is long. -/
def truncate (cs : List Char) : List Char :=
  if cs.length ≤ longLimit then cs
  else Text.trimRight (cs.take (longLimit - ellipsis.length)) ++ ellipsis

/-- The summary of a long text on one line, which may turn out longer than the text. -/
def shorten (cs : List Char) : List Char :=
  let object := if cs.head? == some '\x7b' then ofObject? cs else none
  (object.or (ofUnion? cs)).getD (truncate (collapseArrays cs))

def summary (cs : List Char) : List Char :=
  let trimmed := Text.trim cs
  if trimmed.length ≤ shortLimit then trimmed
  else
    let line := Text.joinWith [' '] (Text.words trimmed)
    let short := shorten line
    if line.length < short.length then truncate line else short

/-- The summary of an expression given as a string. -/
def summarize (text : String) : String := String.ofList (summary text.toList)

end TypeMismatch.Summary
