import TypeMismatch.Pattern.Match
import TypeMismatch.Pattern.Parser
import TypeMismatch.Pattern.Start
import TypeMismatch.Platform

/-!
# Patterns that are ready for use

A pattern keeps the text it was read from, its tree and its number of groups.  Reading it checks as
well what only the whole tree shows: that a look behind has one width and does not go too far, and
that no loop occurs under an option that forbids loops.
-/

namespace TypeMismatch

/-- A pattern: its text, its tree, the number of its groups and the flags of the whole. -/
structure Pattern where
  source : String
  root : Pattern.Node
  groups : Nat
  flags : Pattern.Flags
  deriving DecidableEq

namespace Pattern

/-- The least width that a look behind cannot reach. -/
def tooFarBehind : Nat := Nat.pow 2 31

/-- The name under which a loop is reported. -/
def Appetite.name : Appetite → String
  | .greedy => "MAX_REPEAT"
  | .lazy => "MIN_REPEAT"
  | .possessive => "POSSESSIVE_REPEAT"

/-- The first fault of a tree, from left to right and from the outside in. -/
def Node.fault? (loops : Bool) : Node → Option Fault
  | .seq first second => (first.fault? loops).or (second.fault? loops)
  | .alt first second => (first.fault? loops).or (second.fault? loops)
  | .group _ body => body.fault? loops
  | .withFlags _ _ body => body.fault? loops
  | .loop appetite _ _ body =>
    if loops then body.fault? loops else some (.unsupportedLoop appetite.name)
  | .ahead _ body => body.fault? loops
  | .behind _ width body =>
    if width.isFixed then body.fault? loops else some .variableLookbehind
  | .atomic body => body.fault? loops
  | .conditional _ yes no => (yes.fault? loops).or (no.fault? loops)
  | _ => none

/-- Does some look behind in the tree go too far? -/
def Node.looksTooFar : Node → Bool
  | .seq first second => first.looksTooFar || second.looksTooFar
  | .alt first second => first.looksTooFar || second.looksTooFar
  | .group _ body => body.looksTooFar
  | .withFlags _ _ body => body.looksTooFar
  | .loop _ _ _ body => body.looksTooFar
  | .ahead _ body => body.looksTooFar
  | .behind _ width body => tooFarBehind ≤ width.least || body.looksTooFar
  | .atomic body => body.looksTooFar
  | .conditional _ yes no => yes.looksTooFar || no.looksTooFar
  | _ => false

/-- Reads a pattern and checks it. -/
def compile (names : CharacterNames) (source : String) : Except Refusal Pattern := do
  let parsed ← parse names source.toList
  match parsed.root.fault? (!parsed.flags.unsupportedLoops) with
  | some cause => .error (.fault cause none)
  | none =>
    if parsed.root.looksTooFar then .error .tooFarBehind
    else return ⟨source, parsed.root, parsed.groups, parsed.flags⟩

/-- Reads a pattern on a platform, which knows the names of characters and may run out of room. -/
def compileOn (platform : Platform) (source : String) : Except Refusal Pattern :=
  if platform.patternTooDeep source then .error .tooDeep
  else compile platform.characterNamed? source

/-- The leftmost match of a pattern in a text. -/
def search (p : Pattern) (text : List Char) : Option Place :=
  searchFrom (p.root.begin p.flags) [] 0 text

end Pattern

end TypeMismatch
