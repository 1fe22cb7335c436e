/-!
# Patterns as trees

A pattern is a tree of nodes.  Characters are given by their code points, since a pattern may name a
code point that no text can hold.  How a node matches depends on the flags in force where it stands;
a `withFlags` node changes them for its body.
-/

namespace TypeMismatch.Pattern

/-- The options under which a part of a pattern is matched.  `ascii` and `unicode` choose the
alphabet of classes and of case; `unsupportedLoops` is an option under which no loop is accepted. -/
structure Flags where
  ignoreCase : Bool
  multiline : Bool
  dotAll : Bool
  verbose : Bool
  ascii : Bool
  unicode : Bool
  unsupportedLoops : Bool
  deriving DecidableEq

namespace Flags

def none : Flags := ⟨false, false, false, false, false, false, false⟩

/-- The options of either side. -/
def union (f g : Flags) : Flags where
  ignoreCase := f.ignoreCase || g.ignoreCase
  multiline := f.multiline || g.multiline
  dotAll := f.dotAll || g.dotAll
  verbose := f.verbose || g.verbose
  ascii := f.ascii || g.ascii
  unicode := f.unicode || g.unicode
  unsupportedLoops := f.unsupportedLoops || g.unsupportedLoops

/-- The options of the left side that the right side lacks. -/
def without (f g : Flags) : Flags where
  ignoreCase := f.ignoreCase && !g.ignoreCase
  multiline := f.multiline && !g.multiline
  dotAll := f.dotAll && !g.dotAll
  verbose := f.verbose && !g.verbose
  ascii := f.ascii && !g.ascii
  unicode := f.unicode && !g.unicode
  unsupportedLoops := f.unsupportedLoops && !g.unsupportedLoops

/-- Does any option occur on both sides? -/
def overlaps (f g : Flags) : Bool :=
  (f.ignoreCase && g.ignoreCase) || (f.multiline && g.multiline) || (f.dotAll && g.dotAll) ||
    (f.verbose && g.verbose) || (f.ascii && g.ascii) || (f.unicode && g.unicode) ||
    (f.unsupportedLoops && g.unsupportedLoops)

/-- The flags inside a part that turns some options on and some off.  Choosing an alphabet revokes
the choice made outside. -/
def within (f on off : Flags) : Flags :=
  let outer := if on.ascii || on.unicode then { f with ascii := false, unicode := false } else f
  (outer.union on).without off

end Flags

/-- A condition on a place in a text. -/
inductive Anchor where
  | textStart
  | textEnd
  | lineStart
  | lineEnd
  | wordBoundary
  | notWordBoundary
  deriving DecidableEq

/-- A member of a set of characters. -/
inductive SetItem where
  | code (n : Nat)
  | range (low high : Nat)
  | digit (negated : Bool)
  | space (negated : Bool)
  | word (negated : Bool)
  deriving DecidableEq

/-- How a loop chooses the number of its rounds: as many as possible, as few as possible, or as many
as possible without ever giving one back. -/
inductive Appetite where
  | greedy
  | lazy
  | possessive
  deriving DecidableEq

/-- The least and the greatest number of characters that a part can match. -/
structure Width where
  least : Nat
  greatest : Nat
  deriving DecidableEq

namespace Width

/-- The number of rounds that stands for a loop without a bound; a pattern can only name smaller
numbers. -/
def unboundedRounds : Nat := 4294967295

/-- Do all matches have one width, and one that a pattern can name? -/
def isFixed (w : Width) : Bool := w.least == w.greatest && w.greatest < unboundedRounds

def add (v w : Width) : Width := ⟨v.least + w.least, v.greatest + w.greatest⟩

def join (v w : Width) : Width := ⟨min v.least w.least, max v.greatest w.greatest⟩

def zero : Width := ⟨0, 0⟩

/-- Exactly one character. -/
def one : Width := ⟨1, 1⟩

/-- A part, repeated. -/
def loop (w : Width) (least : Nat) (most : Option Nat) : Width :=
  ⟨w.least * least, w.greatest * most.getD unboundedRounds⟩

end Width

/-- A pattern or a part of one. -/
inductive Node where
  /-- Matches nothing, everywhere. -/
  | empty
  /-- One given character. -/
  | literal (code : Nat)
  /-- One character other than the given one. -/
  | notLiteral (code : Nat)
  /-- Any character, or any but a newline. -/
  | any
  /-- One character of a set, or one outside of it. -/
  | set (negated : Bool) (items : List SetItem)
  | anchor (a : Anchor)
  | seq (first second : Node)
  /-- The first alternative, or else the second. -/
  | alt (first second : Node)
  /-- A part whose text is captured under a number. -/
  | group (index : Nat) (body : Node)
  | withFlags (on off : Flags) (body : Node)
  | loop (appetite : Appetite) (least : Nat) (most : Option Nat) (body : Node)
  /-- The body matches here, or does not, and nothing is consumed. -/
  | ahead (negated : Bool) (body : Node)
  /-- The body matches the text before this place, or does not. -/
  | behind (negated : Bool) (width : Width) (body : Node)
  /-- The body's first way to match is final. -/
  | atomic (body : Node)
  /-- The text that a group captured. -/
  | backref (index : Nat)
  /-- One of two parts, by whether a group took part. -/
  | conditional (index : Nat) (yes no : Node)
  deriving DecidableEq

namespace Node

def ofList : List Node → Node
  | [] => .empty
  | [node] => node
  | node :: rest => .seq node (ofList rest)

/-- The alternatives of a non-empty list, in order. -/
def choice (first : Node) : List Node → Node
  | [] => first
  | next :: rest => .alt first (choice next rest)

end Node

end TypeMismatch.Pattern
