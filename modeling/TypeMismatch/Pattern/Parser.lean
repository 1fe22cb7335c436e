import TypeMismatch.Pattern.Piece
import TypeMismatch.Pattern.SetParser
import TypeMismatch.Text.Digit
import TypeMismatch.Text.Identifier

/-!
# Reading a pattern

The reader keeps a stack of open parentheses and takes one token, or one group of tokens, in each
step.  Faults are found from left to right; an open parenthesis without its partner is found last.
-/

namespace TypeMismatch.Pattern

/-- Why a parenthesis was opened. -/
inductive Opening where
  /-- Not a parenthesis, but the whole pattern. -/
  | whole
  | capture (index : Nat)
  | plain
  | withFlags (on off : Flags)
  | atomic
  | ahead (negated : Bool)
  /-- `outermost` says that no other such parenthesis is open. -/
  | behind (negated : Bool) (outermost : Bool)
  | conditional (index : Nat)

/-- A parenthesis that is open: its place, the alternatives that are complete, and the pieces of the
current one, both with the last one first. -/
structure Frame where
  opening : Opening
  start : Nat
  verbose : Bool
  complete : List (List Piece)
  pieces : List Piece

/-- What is known about the groups of the pattern and its flags so far. -/
structure Context where
  /-- The number of the next group. -/
  nextGroup : Nat
  names : List (String × Nat)
  /-- The widths of the groups that are closed. -/
  widths : List (Nat × Width)
  /-- Inside a look behind, the number of the first group that it opened itself. -/
  behindFrom : Option Nat
  /-- The numbers that conditions refer to, with the place of the first reference to each. -/
  conditions : List (Nat × Nat)
  flags : Flags

structure Reading where
  scanner : Scanner
  context : Context
  frame : Frame
  outer : List Frame

namespace Context

/-- The width of a closed group. -/
def width? (c : Context) (index : Nat) : Option Width :=
  (c.widths.find? (·.1 == index)).map (·.2)

/-- The number of a named group. -/
def named? (c : Context) (name : List Char) : Option Nat :=
  (c.names.find? (·.1 == String.ofList name)).map (·.2)

/-- Inside a look behind, a reference has to go to a group that was closed before it began. -/
def checkBehind (c : Context) (index position : Nat) : Except Refusal Unit :=
  match c.behindFrom with
  | none => .ok ()
  | some first =>
    if (c.width? index).isNone then Scanner.refuse .openReference position
    else if first ≤ index then Scanner.refuse .sameLookbehind position
    else .ok ()

end Context

namespace Reading

/-- The reader with another piece at the end of the current sequence. -/
def push (r : Reading) (piece : Piece) : Reading :=
  { r with frame := { r.frame with pieces := piece :: r.frame.pieces } }

def moveTo (r : Reading) (s : Scanner) : Reading := { r with scanner := s }

/-- The current sequence, with the contents of its bundles in place. -/
def sequence (f : Frame) : List Piece := f.pieces.reverse.flatMap Piece.unpacked

def alternatives (f : Frame) : List (List Piece) := (sequence f :: f.complete).reverse

/-- A reference to a group by its number, in an escape that begins at `start`. -/
def reference (r : Reading) (index start : Nat) (s : Scanner) : Except Refusal Reading :=
  if index < r.context.nextGroup then
    match r.context.width? index with
    | none => Scanner.refuse .openReference start
    | some width => do
      r.context.checkBehind index s.position
      return (r.moveTo s).push (.single (.backref index) width)
  else Scanner.refuse (.invalidReference index) (start + 1)

/-- An escape that begins at `start`; the scanner stands after its letter. -/
def readEscape (names : CharacterNames) (r : Reading) (c : Char) (start : Nat) (s : Scanner) :
    Except Refusal Reading := do
  let (meaning, after) ← escape names c start s
  match meaning with
  | .code n => return (r.moveTo after).push (.single (.literal n) .one)
  | .item i => return (r.moveTo after).push (.single (.set false [i]) .one)
  | .anchor a => return (r.moveTo after).push (.place a)
  | .reference index => r.reference index start after

/-- The greatest number of rounds that may be written, plus one. -/
def loopLimit : Nat := 4294967295

def rounds (digits : List Char) : Except Refusal Nat :=
  if Text.maxNumeralDigits < digits.length then .error .longNumeral
  else
    let n := numberOf 10 digits
    if loopLimit ≤ n then .error .oversizedLoop else .ok n

/-- The number of rounds in braces; `here` is the place after the opening brace.  The result is
`none` when the brace opens no such number and stands for itself. -/
def braceBounds (here : Nat) (s : Scanner) :
    Except Refusal (Option ((Nat × Option Nat) × Scanner)) := do
  if s.sees '\x7d' then return none
  else
    let (low, afterLow) ← s.takeWhile Text.isAsciiDigit s.tokens.length
    let (comma, afterComma) ← afterLow.accept ','
    let (high, afterHigh) ←
      if comma then afterComma.takeWhile Text.isAsciiDigit afterComma.tokens.length
      else pure (low, afterComma)
    let (closed, last) ← afterHigh.accept '\x7d'
    if !closed then return none
    else
      let least ← if low.isEmpty then pure 0 else rounds low
      if high.isEmpty then return some ((least, none), last)
      else
        let most ← rounds high
        if most < least then Scanner.refuse .repeatBounds here
        else return some ((least, some most), last)

/-- The number of rounds of a quantifier. -/
def bounds (c : Char) (here : Nat) (s : Scanner) :
    Except Refusal (Option ((Nat × Option Nat) × Scanner)) :=
  if c == '?' then .ok (some ((0, some 1), s))
  else if c == '*' then .ok (some ((0, none), s))
  else if c == '+' then .ok (some ((1, none), s))
  else braceBounds here s

/-- The sign after a quantifier that changes its appetite. -/
def appetite (s : Scanner) : Except Refusal (Appetite × Scanner) := do
  let (isLazy, afterMark) ← s.accept '?'
  if isLazy then return (.lazy, afterMark)
  else
    let (isPossessive, afterPlus) ← s.accept '+'
    return (if isPossessive then .possessive else .greedy, afterPlus)

/-- A quantifier, which repeats the last piece; `start` is its place. -/
def readQuantifier (r : Reading) (c : Char) (start : Nat) (s : Scanner) :
    Except Refusal Reading := do
  match ← bounds c s.position s with
  | none => return (r.moveTo s).push (.single (.literal c.toNat) .one)
  | some ((least, most), after) =>
    match r.frame.pieces with
    | [] => Scanner.refuse .nothingToRepeat start
    | .place _ :: _ => Scanner.refuse .nothingToRepeat start
    | .loop _ _ :: _ => Scanner.refuse .multipleRepeat start
    | piece :: before => do
      let (mode, last) ← appetite after
      let loop := Piece.loop (.loop mode least most piece.node)
        (piece.width.loop least most)
      return { r.moveTo last with frame := { r.frame with pieces := loop :: before } }

def enter (r : Reading) (opening : Opening) (start : Nat) (verbose : Bool) (s : Scanner) :
    Reading :=
  { r with scanner := s, frame := ⟨opening, start, verbose, [], []⟩, outer := r.frame :: r.outer }

/-- Opens a capturing parenthesis, which may have a name. -/
def enterCapture (r : Reading) (name : Option (List Char)) (start : Nat) (s : Scanner) :
    Except Refusal Reading :=
  let index := r.context.nextGroup
  let opened (names : List (String × Nat)) : Reading :=
    { r with context := { r.context with nextGroup := index + 1, names := names } }
  match name with
  | none => .ok ((opened r.context.names).enter (.capture index) start r.frame.verbose s)
  | some name =>
    match r.context.named? name with
    | some old =>
      Scanner.refuse (.redefinedGroup (String.ofList name) index old)
        (s.position - (name.length + 1))
    | none =>
      let names := (String.ofList name, index) :: r.context.names
      .ok ((opened names).enter (.capture index) start r.frame.verbose s)

def flag? : Char → Option Flags
  | 'i' => some { Flags.none with ignoreCase := true }
  | 'm' => some { Flags.none with multiline := true }
  | 's' => some { Flags.none with dotAll := true }
  | 'x' => some { Flags.none with verbose := true }
  | 'a' => some { Flags.none with ascii := true }
  | 't' => some { Flags.none with unsupportedLoops := true }
  | 'u' => some { Flags.none with unicode := true }
  | _ => none

/-- Is the letter one that names a flag, if only one that is refused? -/
def isFlagLetter (c : Char) : Bool := c == 'L' || (flag? c).isSome

/-- The fault of a token where a flag was expected. -/
def notFlag (t : Token) (otherwise : Fault) : Fault :=
  match t with
  | .plain c => if Text.isLetter c then .unknownFlag else otherwise
  | _ => otherwise

/-- The flags that are turned on, the letter `c` having been taken, and the sign that ends them. -/
def flagsOn : (fuel : Nat) → (on : Flags) → (c : Char) → Scanner →
    Except Refusal (Flags × Char × Scanner)
  | 0, _, _, s => Scanner.refuse .missingFlagEnd s.position
  | fuel + 1, on, c, s =>
    match flag? c with
    | none => Scanner.refuse .localeFlag s.position
    | some flag => do
      let union := on.union flag
      if union.ascii && union.unicode then Scanner.refuse .alphabetConflict s.position
      else
        let (t?, after) ← s.take
        match t? with
        | none => Scanner.refuse .missingFlagEnd after.position
        | some t =>
          match t with
          | .plain d =>
            if d == ')' || d == '-' || d == ':' then return (union, d, after)
            else if isFlagLetter d then flagsOn fuel union d after
            else
              Scanner.refuse (notFlag t .missingFlagEnd) (after.position - t.width)
          | _ => Scanner.refuse (notFlag t .missingFlagEnd) (after.position - t.width)

/-- The flags that are turned off, the letter `c` having been taken, up to the colon. -/
def flagsOff : (fuel : Nat) → (off : Flags) → (c : Char) → Scanner →
    Except Refusal (Flags × Scanner)
  | 0, _, _, s => Scanner.refuse .missingColon s.position
  | fuel + 1, off, c, s =>
    match flag? c with
    | none => Scanner.refuse .alphabetOff s.position
    | some flag => do
      if flag.ascii || flag.unicode then Scanner.refuse .alphabetOff s.position
      else
        let (t?, after) ← s.take
        match t? with
        | none => Scanner.refuse .missingColon after.position
        | some t =>
          match t with
          | .plain d =>
            if d == ':' then return (off.union flag, after)
            else if isFlagLetter d then flagsOff fuel (off.union flag) d after
            else Scanner.refuse (notFlag t .missingColon) (after.position - t.width)
          | _ => Scanner.refuse (notFlag t .missingColon) (after.position - t.width)

def flagsAfterMinus (s : Scanner) : Except Refusal (Flags × Scanner) := do
  let (t?, after) ← s.take
  match t? with
  | none => Scanner.refuse .missingFlag after.position
  | some t =>
    match t with
    | .plain d =>
      if isFlagLetter d then flagsOff (after.tokens.length + 1) Flags.none d after
      else Scanner.refuse (notFlag t .missingFlag) (after.position - t.width)
    | _ => Scanner.refuse (notFlag t .missingFlag) (after.position - t.width)

/-- Opens a parenthesis with flags of its own. -/
def enterFlags (r : Reading) (on off : Flags) (start : Nat) (s : Scanner) :
    Except Refusal Reading :=
  if off.unsupportedLoops then Scanner.refuse .globalFlagOff (s.position - 1)
  else if on.overlaps off then Scanner.refuse .flagOnAndOff (s.position - 1)
  else
    let verbose := (r.frame.verbose || on.verbose) && !off.verbose
    .ok (r.enter (.withFlags on off) start verbose s)

/-- Sets flags of the whole pattern, which is allowed only at its very start. -/
def setFlags (r : Reading) (on : Flags) (start : Nat) (s : Scanner) : Except Refusal Reading :=
  let context := { r.context with flags := r.context.flags.union on }
  match r.frame.opening, r.frame.complete, r.frame.pieces with
  | .whole, [], [] =>
    let frame := { r.frame with verbose := context.flags.verbose }
    .ok { r.moveTo s with context := context, frame := frame }
  | _, _, _ => Scanner.refuse .lateGlobalFlags start

/-- A parenthesis that begins with flags, of which the first sign `c` has been taken. -/
def readFlags (r : Reading) (c : Char) (start : Nat) (s : Scanner) : Except Refusal Reading := do
  if c == '-' then
    let (off, after) ← flagsAfterMinus s
    r.enterFlags Flags.none off start after
  else
    let (on, stop, after) ← flagsOn (s.tokens.length + 1) Flags.none c s
    if stop == ')' then r.setFlags on start after
    else if on.unsupportedLoops then Scanner.refuse .globalFlagOn (after.position - 1)
    else if stop == '-' then
      let (off, last) ← flagsAfterMinus after
      r.enterFlags on off start last
    else r.enterFlags on Flags.none start after

/-- A group name has to be an identifier.  The scanner stands after the sign that ended it. -/
def checkName (name : List Char) (s : Scanner) : Except Refusal Unit :=
  if Text.isIdentifier name then .ok ()
  else Scanner.refuse (.badGroupName (String.ofList name)) (s.position - (name.length + 1))

/-- A reference to a group by its name, which the scanner stands behind. -/
def namedReference (r : Reading) (name : List Char) (s : Scanner) : Except Refusal Reading :=
  let place := s.position - (name.length + 1)
  match r.context.named? name with
  | none => Scanner.refuse (.unknownGroup (String.ofList name)) place
  | some index =>
    match r.context.width? index with
    | none => Scanner.refuse .openReference place
    | some width => do
      r.context.checkBehind index s.position
      return (r.moveTo s).push (.single (.backref index) width)

/-- A parenthesis with a name in it; the letter `P` has been taken. -/
def readNamed (r : Reading) (start : Nat) (s : Scanner) : Except Refusal Reading := do
  let (isGroup, inGroup) ← s.accept '<'
  if isGroup then
    let (name, after) ← inGroup.takeUntil '>' "group name"
    checkName name after
    r.enterCapture (some name) start after
  else
    let (isReference, inReference) ← s.accept '='
    if isReference then
      let (name, after) ← inReference.takeUntil ')' "group name"
      checkName name after
      r.namedReference name after
    else
      let (t?, after) ← s.take
      match t? with
      | none => Scanner.refuse .unexpectedEnd after.position
      | some t =>
        Scanner.refuse (.unknownExtension ("P" ++ t.text)) (after.position - (t.width + 2))

/-- A number of groups that no pattern can have. -/
def groupLimit : Nat := 1073741823

/-- The group that a condition names by its number. -/
def numberedCondition (r : Reading) (name : List Char) (s : Scanner) :
    Except Refusal (Nat × Context) :=
  let place := s.position - (name.length + 1)
  match Text.readInteger? name with
  | some (.ofNat index) =>
    if index == 0 then Scanner.refuse .badGroupNumber place
    else if groupLimit ≤ index then Scanner.refuse (.invalidReference index) place
    else
      let known := r.context.conditions.any (·.1 == index)
      let conditions :=
        if known then r.context.conditions else r.context.conditions ++ [(index, place)]
      .ok (index, { r.context with conditions := conditions })
  | _ => Scanner.refuse (.badGroupName (String.ofList name)) place

/-- A parenthesis with a condition; the parenthesis that opens the condition has been taken. -/
def readCondition (r : Reading) (start : Nat) (s : Scanner) : Except Refusal Reading := do
  let (name, after) ← s.takeUntil ')' "group name"
  let (index, context) ←
    if Text.isIdentifier name then
      match r.context.named? name with
      | some index => pure (index, r.context)
      | none =>
        Scanner.refuse (.unknownGroup (String.ofList name)) (after.position - (name.length + 1))
    else r.numberedCondition name after
  context.checkBehind index after.position
  return { r with context := context }.enter (.conditional index) start r.frame.verbose after

/-- A look behind; the sign `<` has been taken. -/
def readBehind (r : Reading) (start : Nat) (s : Scanner) : Except Refusal Reading := do
  let (t?, after) ← s.take
  match t? with
  | none => Scanner.refuse .unexpectedEnd after.position
  | some t =>
    if t == .plain '=' || t == .plain '!' then
      let outermost := r.context.behindFrom.isNone
      let behindFrom := r.context.behindFrom.getD r.context.nextGroup
      let context := { r.context with behindFrom := some behindFrom }
      let negated := t == Token.plain '!'
      return { r with context := context }.enter (.behind negated outermost) start r.frame.verbose
        after
    else
      Scanner.refuse (.unknownExtension ("<" ++ t.text)) (after.position - (t.width + 2))

/-- A parenthesis; the scanner stands after it, and `start` is its place. -/
def readParenthesis (r : Reading) (start : Nat) (s : Scanner) : Except Refusal Reading := do
  let (extended, inner) ← s.accept '?'
  if !extended then r.enterCapture none start s
  else
    let (t?, after) ← inner.take
    match t? with
    | none => Scanner.refuse .unexpectedEnd after.position
    | some t =>
      let unknown : Except Refusal Reading :=
        Scanner.refuse (.unknownExtension t.text) (after.position - (t.width + 1))
      match t with
      | .plain c =>
        if c == 'P' then r.readNamed start after
        else if c == ':' then return r.enter .plain start r.frame.verbose after
        else if c == '#' then
          let last ← Scanner.skipComment start after.position after.tokens
          return r.moveTo last
        else if c == '=' then return r.enter (.ahead false) start r.frame.verbose after
        else if c == '!' then return r.enter (.ahead true) start r.frame.verbose after
        else if c == '<' then r.readBehind start after
        else if c == '(' then r.readCondition start after
        else if c == '>' then return r.enter .atomic start r.frame.verbose after
        else if isFlagLetter c || c == '-' then r.readFlags c start after
        else unknown
      | _ => unknown

/-- The piece of a parenthesis that closes, and what is known after it. -/
def closed (f : Frame) (context : Context) : Piece × Context :=
  let pieces := Piece.alternation (alternatives f)
  let node := Piece.sequenceNode pieces
  let width := Piece.sequenceWidth pieces
  match f.opening with
  | .whole => (.bundle pieces, context)
  | .plain => (.bundle pieces, context)
  | .capture index =>
    (.single (.group index node) width, { context with widths := (index, width) :: context.widths })
  | .withFlags on off => (.single (.withFlags on off node) width, context)
  | .atomic => (.single (.atomic node) width, context)
  | .ahead negated => (.single (.ahead negated node) .zero, context)
  | .behind negated outermost =>
    (.single (.behind negated width node) .zero,
      if outermost then { context with behindFrom := none } else context)
  | .conditional index =>
    match alternatives f with
    | [yes, no] =>
      (.single (.conditional index (Piece.sequenceNode yes) (Piece.sequenceNode no))
        ((Piece.sequenceWidth yes).join (Piece.sequenceWidth no)), context)
    | _ =>
      (.single (.conditional index node .empty) ⟨0, width.greatest⟩, context)

/-- Closes the innermost parenthesis, inside of the frame `around`. -/
def leave (r : Reading) (around : Frame) (outer : List Frame) (s : Scanner) : Reading :=
  let (piece, context) := closed r.frame r.context
  { scanner := s, context := context, outer := outer,
    frame := { around with pieces := piece :: around.pieces } }

/-- Begins the next alternative; the scanner stands after the bar. -/
def nextAlternative (r : Reading) (s : Scanner) : Reading :=
  let verbose := match r.frame.opening with
    | .whole => r.context.flags.verbose
    | _ => r.frame.verbose
  let complete := sequence r.frame :: r.frame.complete
  { r.moveTo s with
    frame := { r.frame with verbose := verbose, complete := complete, pieces := [] } }

/-- Has the frame a condition, and an alternative already? -/
def hasTwoBranches (f : Frame) : Bool :=
  match f.opening with
  | .conditional _ => !f.complete.isEmpty
  | _ => false

/-- Is the character one that a verbose pattern may hold between its parts? -/
def isPatternGap (c : Char) : Bool :=
  c == ' ' || (9 ≤ c.toNat && c.toNat ≤ 13)

/-- Reads a part that begins with the character `c` at `start`. -/
def readPart (names : CharacterNames) (r : Reading) (c : Char) (start : Nat) (s : Scanner) :
    Except Refusal Reading := do
  if r.frame.verbose && isPatternGap c then return r.moveTo s
  else if r.frame.verbose && c == '#' then
    let after ← Scanner.skipLine s.position s.tokens
    return r.moveTo after
  else if c == '[' then
    let (node, after) ← readSet names start s
    return (r.moveTo after).push (.single node .one)
  else if c == '*' || c == '+' || c == '?' || c == '\x7b' then r.readQuantifier c start s
  else if c == '.' then return (r.moveTo s).push (.single .any .one)
  else if c == '(' then r.readParenthesis start s
  else if c == '^' then return (r.moveTo s).push (.place .lineStart)
  else if c == '$' then return (r.moveTo s).push (.place .lineEnd)
  else return (r.moveTo s).push (.single (.literal c.toNat) .one)

/-- One step: the reader after the next part, or `none` when the pattern is at its end or at a
closing parenthesis without its partner. -/
def step (names : CharacterNames) (r : Reading) : Except Refusal (Option Reading) := do
  match r.scanner.peek with
  | none =>
    if r.outer.isEmpty then return none else Scanner.refuse .unterminatedGroup r.frame.start
  | some (.plain '|') =>
    if hasTwoBranches r.frame then Scanner.refuse .threeBranches r.scanner.position
    else
      let after ← r.scanner.next
      return some (r.nextAlternative after)
  | some (.plain ')') =>
    match r.outer with
    | [] => return none
    | around :: outer =>
      let after ← r.scanner.next
      return some (r.leave around outer after)
  | some t =>
    let after ← r.scanner.next
    match t with
    | .escaped c => return some (← r.readEscape names c r.scanner.position after)
    | .plain c => return some (← r.readPart names c r.scanner.position after)
    | .dangling => return none

/-- Takes steps until there is none to take.  Each step takes at least one token. -/
def run (names : CharacterNames) : (fuel : Nat) → Reading → Except Refusal Reading
  | 0, r => .ok r
  | fuel + 1, r => do
    match ← r.step names with
    | none => return r
    | some next => run names fuel next

end Reading

/-- A pattern that has been read: its tree, the number of its groups and its flags. -/
structure Parsed where
  root : Node
  groups : Nat
  flags : Flags

/-- The flags of a pattern; one that does not choose an alphabet uses all of Unicode. -/
def finalFlags (f : Flags) : Except Refusal Flags :=
  if !f.ascii then .ok { f with unicode := true }
  else if f.unicode then .error .twoAlphabets
  else .ok f

def parse (names : CharacterNames) (pattern : List Char) : Except Refusal Parsed := do
  let scanner ← Scanner.ofPattern pattern
  let context : Context := ⟨1, [], [], none, [], Flags.none⟩
  let start : Reading := ⟨scanner, context, ⟨.whole, 0, false, [], []⟩, []⟩
  let final ← start.run names (scanner.tokens.length + 1)
  let flags ← finalFlags final.context.flags
  if final.scanner.peek.isSome then
    Scanner.refuse .unbalancedParenthesis final.scanner.position
  else
    match final.context.conditions.find? (final.context.nextGroup ≤ ·.1) with
    | some (index, place) => Scanner.refuse (.invalidReference index) place
    | none =>
      let pieces := Piece.alternation (Reading.alternatives final.frame)
      return ⟨Piece.sequenceNode pieces, final.context.nextGroup - 1, flags⟩

end TypeMismatch.Pattern
