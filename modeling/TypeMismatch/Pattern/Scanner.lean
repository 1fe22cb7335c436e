import TypeMismatch.Pattern.Fault

/-!
# The tokens of a pattern

A backslash and the character after it are one token.  A backslash at the very end is no token: it
is a fault as soon as the scanner moves up to it.
-/

namespace TypeMismatch.Pattern

/-- A token: a character, or a backslash with the character after it. -/
inductive Token where
  | plain (c : Char)
  | escaped (c : Char)
  | dangling
  deriving DecidableEq

namespace Token

/-- The number of characters of a token. -/
def width : Token → Nat
  | .escaped _ => 2
  | _ => 1

def chars : Token → List Char
  | .plain c => [c]
  | .escaped c => ['\\', c]
  | .dangling => ['\\']

def text (t : Token) : String := String.ofList t.chars

/-- Splits a text into tokens. -/
def ofChars : List Char → List Token
  | [] => []
  | '\\' :: c :: rest => .escaped c :: ofChars rest
  | ['\\'] => [.dangling]
  | c :: rest => .plain c :: ofChars rest

end Token

/-- The tokens that are left, and the number of characters before them. -/
structure Scanner where
  position : Nat
  tokens : List Token

namespace Scanner

/-- A refusal because of a fault at a place. -/
def refuse {α : Type} (cause : Fault) (position : Nat) : Except Refusal α :=
  .error (.fault cause (some position))

/-- The scanner at its place, provided that no dangling backslash stands there. -/
def guarded (s : Scanner) : Except Refusal Scanner :=
  match s.tokens with
  | .dangling :: _ => refuse .danglingBackslash s.position
  | _ => .ok s

def ofPattern (pattern : List Char) : Except Refusal Scanner :=
  guarded ⟨0, Token.ofChars pattern⟩

def peek (s : Scanner) : Option Token := s.tokens.head?

/-- Is the next token the given character? -/
def sees (s : Scanner) (c : Char) : Bool := s.peek == some (.plain c)

def next (s : Scanner) : Except Refusal Scanner :=
  match s.tokens with
  | [] => .ok s
  | t :: rest => guarded ⟨s.position + t.width, rest⟩

/-- Takes the next token. -/
def take (s : Scanner) : Except Refusal (Option Token × Scanner) := do
  let after ← s.next
  return (s.peek, after)

/-- Passes over a character if it comes next, and says whether it did. -/
def accept (s : Scanner) (c : Char) : Except Refusal (Bool × Scanner) :=
  if s.sees c then do
    let after ← s.next
    return (true, after)
  else .ok (false, s)

/-- Takes at most `limit` tokens that are characters of a class. -/
def takeWhile (p : Char → Bool) : (limit : Nat) → Scanner → Except Refusal (List Char × Scanner)
  | 0, s => .ok ([], s)
  | limit + 1, s =>
    match s.tokens with
    | .plain c :: rest =>
      if p c then do
        let after ← guarded ⟨s.position + 1, rest⟩
        let (more, last) ← takeWhile p limit after
        return (c :: more, last)
      else .ok ([], s)
    | _ => .ok ([], s)

/-- Takes a name up to a terminator, which is passed over.  `done` are the characters of the name so
far, the last one first, and `what` is the word for the name. -/
def takeName (terminator : Char) (what : String) (done : List Char) (position : Nat) :
    List Token → Except Refusal (List Char × Scanner)
  | [] =>
    if done.isEmpty then refuse (.missing what) position
    else refuse (.unterminatedName terminator) (position - done.length)
  | t :: rest => do
    let after ← guarded ⟨position + t.width, rest⟩
    if t == .plain terminator then
      if done.isEmpty then refuse (.missing what) position
      else return (done.reverse, after)
    else takeName terminator what (t.chars.reverse ++ done) (position + t.width) rest

/-- Takes a name up to a terminator. -/
def takeUntil (s : Scanner) (terminator : Char) (what : String) :
    Except Refusal (List Char × Scanner) :=
  takeName terminator what [] s.position s.tokens

/-- Passes over everything up to the end of a comment that began at `start`. -/
def skipComment (start : Nat) (position : Nat) : List Token → Except Refusal Scanner
  | [] => refuse .unterminatedComment start
  | t :: rest => do
    let after ← guarded ⟨position + t.width, rest⟩
    if t == .plain ')' then return after else skipComment start (position + t.width) rest

/-- Passes over everything up to the end of the line. -/
def skipLine (position : Nat) : List Token → Except Refusal Scanner
  | [] => .ok ⟨position, []⟩
  | t :: rest => do
    let after ← guarded ⟨position + t.width, rest⟩
    if t == .plain '\n' then return after else skipLine (position + t.width) rest

end Scanner

end TypeMismatch.Pattern
