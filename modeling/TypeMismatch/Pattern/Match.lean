import TypeMismatch.Pattern.Syntax
import TypeMismatch.Text.Blank
import TypeMismatch.Text.Capital
import TypeMismatch.Text.Digit
import TypeMismatch.Text.Letter
import TypeMismatch.Text.LetterCase

/-!
# Matching

A node matches at a place of a text in several ways, tried in a fixed order: a greedy loop tries
more rounds before fewer, an alternation its first branch before its second.  `run node flags k s`
tries the ways of `node` from the place `s` one after another and answers with the first on which
the continuation `k` succeeds.  All state is in the place, so giving up a way undoes what it
captured.
-/

namespace TypeMismatch.Pattern

/-- The code point as it is compared: without its case when case is ignored. -/
def Flags.fold (f : Flags) (n : Nat) : Nat :=
  if !f.ignoreCase then n else if f.unicode then Text.lowerCode n else Text.lowerAsciiCode n

/-- Other code points that count as the same letter as a folded one. -/
def Flags.partners (f : Flags) (n : Nat) : List Nat :=
  if f.ignoreCase && f.unicode then Text.partnersOf n else []

/-- A letter or digit of the alphabet in force, or the underscore. -/
def Flags.isWord (f : Flags) (c : Char) : Bool :=
  if f.unicode then Text.isWordChar c
  else Text.isAsciiLetter c || Text.isAsciiDigit c || c == '_'

/-- A blank of the alphabet in force. -/
def Flags.isSpace (f : Flags) (c : Char) : Bool :=
  if f.unicode then Text.isBlank c else c == ' ' || (9 ≤ c.toNat && c.toNat ≤ 13)

/-- A digit of the alphabet in force. -/
def Flags.isDigit (f : Flags) (c : Char) : Bool :=
  if f.unicode then Text.isDigit c else Text.isAsciiDigit c

/-- Is the character the one of the given code point? -/
def Flags.sameCode (f : Flags) (code : Nat) (c : Char) : Bool :=
  let folded := f.fold c.toNat
  folded == f.fold code || (f.partners (f.fold code)).contains folded

/-- The last code point of the basic plane, beyond which sets compare letters by themselves. -/
def lastBasic : Nat := 0xFFFF

/-- Does a range hold a capital or small form of a character whose case is ignored? -/
def Flags.rangeIgnoringCase (f : Flags) (low high : Nat) (c : Char) : Bool :=
  let folded := f.fold c.toNat
  let within (top n : Nat) : Bool := low ≤ n && n ≤ top
  let forms :=
    if f.unicode then (folded :: Text.partnersOf folded).flatMap Text.lowerOrigins
    else if 97 ≤ folded && folded ≤ 122 then [folded, folded - 32] else [folded]
  forms.any (within (min high lastBasic)) ||
    (lastBasic < high && (within high folded || within high (Text.capitalCode folded)))

/-- Does the character belong to a member of a set? -/
def SetItem.holds (f : Flags) (c : Char) : SetItem → Bool
  | .code n => if lastBasic < f.fold n then f.fold c.toNat == n else f.sameCode n c
  | .range low high =>
    if f.ignoreCase then f.rangeIgnoringCase low high c
    else low ≤ c.toNat && c.toNat ≤ high
  | .digit negated => f.isDigit c != negated
  | .space negated => f.isSpace c != negated
  | .word negated => f.isWord c != negated

/-- A place in a text: the characters before it, the nearest first, those after it, and the marks
that groups have left, the latest first.  Group `n` leaves mark `2 n` at its start and mark
`2 n + 1` at its end. -/
structure Place where
  position : Nat
  before : List Char
  after : List Char
  marks : List (Nat × Nat)

namespace Place

/-- The place before the first character. -/
def start (text : List Char) : Place := ⟨0, [], text, []⟩

/-- The place after the next character, if that satisfies `p`. -/
def step? (p : Char → Bool) (s : Place) : Option Place :=
  match s.after with
  | c :: rest =>
    if p c then some { s with position := s.position + 1, before := c :: s.before, after := rest }
    else none
  | [] => none

/-- The place `n` characters back, if there is one. -/
def back? : (n : Nat) → Place → Option Place
  | 0, s => some s
  | n + 1, s =>
    match s.before with
    | c :: rest =>
      back? n { s with position := s.position - 1, before := rest, after := c :: s.after }
    | [] => none

def mark (s : Place) (index : Nat) : Place := { s with marks := (index, s.position) :: s.marks }

def mark? (s : Place) (index : Nat) : Option Nat := (s.marks.find? (·.1 == index)).map (·.2)

/-- Where a group has captured: the places of its start and end. -/
def span? (s : Place) (group : Nat) : Option (Nat × Nat) :=
  match s.mark? (2 * group), s.mark? (2 * group + 1) with
  | some first, some last => if first ≤ last then some (first, last) else none
  | _, _ => none

def captured? (s : Place) (group : Nat) : Option (List Char) :=
  (s.span? group).map fun (first, last) =>
    ((s.before.reverse ++ s.after).drop first).take (last - first)

/-- Is there a word character right before this place? -/
def wordBefore (s : Place) (f : Flags) : Bool := s.before.head?.any f.isWord

/-- Is there a word character right after this place? -/
def wordAfter (s : Place) (f : Flags) : Bool := s.after.head?.any f.isWord

/-- Is the text one without any character? -/
def inEmptyText (s : Place) : Bool := s.before.isEmpty && s.after.isEmpty

/-- Does the condition hold here?  An empty text has neither word boundaries nor places that are
none. -/
def satisfies (s : Place) (f : Flags) : Anchor → Bool
  | .textStart => s.before.isEmpty
  | .textEnd => s.after.isEmpty
  | .lineStart => s.before.isEmpty || (f.multiline && s.before.head? == some '\n')
  | .lineEnd =>
    s.after.isEmpty || (if f.multiline then s.after.head? == some '\n' else s.after == ['\n'])
  | .wordBoundary => !s.inEmptyText && s.wordBefore f != s.wordAfter f
  | .notWordBoundary => !s.inEmptyText && s.wordBefore f == s.wordAfter f

end Place

/-- What follows a node: it takes the place after the node and answers with a final place. -/
abbrev Continuation := Place → Option Place

/-- The ways of a part of a pattern. -/
abbrev Ways := Continuation → Place → Option Place

/-- The test that a node of one character makes. -/
def Node.test? (f : Flags) : Node → Option (Char → Bool)
  | .literal code => some (f.sameCode code)
  | .notLiteral code => some fun c => !f.sameCode code c
  | .any => some fun c => f.dotAll || c != '\n'
  | .set negated items => some fun c => (items.any (SetItem.holds f c)) != negated
  | _ => none

/-- May a loop of at most `most` rounds begin another round after `count` of them? -/
def mayContinue (most : Option Nat) (count : Nat) : Bool :=
  match most with
  | some n => count < n
  | none => true

/-- The places after each of the characters that satisfy `p` from here on, the last place first, at
most `fuel` of them, in front of `places`. -/
def advances (p : Char → Bool) : (fuel : Nat) → (places : List Place) → Place → List Place
  | 0, places, s => s :: places
  | fuel + 1, places, s =>
    match s.step? p with
    | some next => advances p fuel (s :: places) next
    | none => s :: places

/-- The places that a loop over one character can end at, the farthest first. -/
def stops (p : Char → Bool) (least : Nat) (most : Option Nat) (s : Place) : List Place :=
  let places := advances p (most.getD s.after.length) [] s
  places.take (places.length - least)

/-- The first place on which the continuation succeeds. -/
def firstOf (k : Continuation) : List Place → Option Place
  | [] => none
  | s :: rest =>
    match k s with
    | some final => some final
    | none => firstOf k rest

/-- A loop over one character that takes as few rounds as it can. -/
def lazily (p : Char → Bool) (least : Nat) (most : Option Nat) (k : Continuation) :
    (fuel : Nat) → (count : Nat) → Continuation
  | 0, count, s => if least ≤ count then k s else none
  | fuel + 1, count, s =>
    match (if least ≤ count then k s else none) with
    | some final => some final
    | none =>
      if mayContinue most count then
        match s.step? p with
        | some next => lazily p least most k fuel (count + 1) next
        | none => none
      else none

/-- A loop that takes as many rounds as it can.  After the least number of rounds, another round
begins only where the one before it began elsewhere: `last` is that place. -/
def greedily (body : Ways) (least : Nat) (most : Option Nat) (k : Continuation) :
    (fuel : Nat) → (count : Nat) → (last : Option Nat) → Continuation
  | 0, _, _, _ => none
  | fuel + 1, count, last, s =>
    if count < least then body (greedily body least most k fuel (count + 1) last) s
    else if mayContinue most count && last != some s.position then
      match body (greedily body least most k fuel (count + 1) (some s.position)) s with
      | some final => some final
      | none => k s
    else k s

/-- A loop that takes as few rounds as it can. -/
def reluctantly (body : Ways) (least : Nat) (most : Option Nat) (k : Continuation) :
    (fuel : Nat) → (count : Nat) → (last : Option Nat) → Continuation
  | 0, _, _, _ => none
  | fuel + 1, count, last, s =>
    if count < least then body (reluctantly body least most k fuel (count + 1) last) s
    else
      match k s with
      | some final => some final
      | none =>
        if mayContinue most count && last != some s.position then
          body (reluctantly body least most k fuel (count + 1) (some s.position)) s
        else none

/-- The rounds of a loop that gives none back: the first way of each, until one fails or stays where
it is. -/
def possessively (body : Ways) (least : Nat) (most : Option Nat) :
    (fuel : Nat) → (count : Nat) → (last : Option Nat) → Continuation
  | 0, _, _, _ => none
  | fuel + 1, count, last, s =>
    if count < least then
      match body some s with
      | some next => possessively body least most fuel (count + 1) last next
      | none => none
    else if mayContinue most count && last != some s.position then
      match body some s with
      | some next => possessively body least most fuel (count + 1) (some s.position) next
      | none => some s
    else some s

/-- A loop over a node of one character. -/
def loopTest (p : Char → Bool) (appetite : Appetite) (least : Nat) (most : Option Nat) : Ways :=
  fun k s =>
    match appetite with
    | .greedy => firstOf k (stops p least most s)
    | .lazy => lazily p least most k s.after.length 0 s
    | .possessive =>
      match stops p least most s with
      | farthest :: _ => k farthest
      | [] => none

/-- A loop over any node.  A round after the least number of them that consumes nothing is the last
one, so the fuel is never used up. -/
def loopWays (body : Ways) (appetite : Appetite) (least : Nat) (most : Option Nat) : Ways :=
  fun k s =>
    let fuel := least + s.after.length + 2
    match appetite with
    | .greedy => greedily body least most k fuel 0 none s
    | .lazy => reluctantly body least most k fuel 0 none s
    | .possessive =>
      match possessively body least most fuel 0 none s with
      | some next => k next
      | none => none

/-- Matches a given text, letters being compared as the flags say. -/
def repeatText (f : Flags) : List Char → Continuation
  | [], s => some s
  | c :: rest, s =>
    match s.step? fun d => f.fold d.toNat == f.fold c.toNat with
    | some next => repeatText f rest next
    | none => none

def Node.run : Node → Flags → Ways
  | .empty, _ => fun k s => k s
  | .literal code, f => fun k s => (s.step? (f.sameCode code)).bind k
  | .notLiteral code, f => fun k s => (s.step? fun c => !f.sameCode code c).bind k
  | .any, f => fun k s => (s.step? fun c => f.dotAll || c != '\n').bind k
  | .set negated items, f => fun k s =>
    (s.step? fun c => (items.any (SetItem.holds f c)) != negated).bind k
  | .anchor a, f => fun k s => if s.satisfies f a then k s else none
  | .seq first second, f => fun k s => first.run f (second.run f k) s
  | .alt first second, f => fun k s =>
    match first.run f k s with
    | some final => some final
    | none => second.run f k s
  | .group index body, f => fun k s =>
    body.run f (fun t => k (t.mark (2 * index + 1))) (s.mark (2 * index))
  | .withFlags on off body, f => body.run (f.within on off)
  | .loop appetite least most body, f =>
    match body.test? f with
    | some p => loopTest p appetite least most
    | none => loopWays (body.run f) appetite least most
  | .ahead negated body, f => fun k s =>
    match body.run f some s with
    | some t => if negated then none else k { s with marks := t.marks }
    | none => if negated then k s else none
  | .behind negated width body, f => fun k s =>
    match (s.back? width.least).bind (body.run f some) with
    | some t => if negated then none else k { s with marks := t.marks }
    | none => if negated then k s else none
  | .atomic body, f => fun k s => (body.run f some s).bind k
  | .backref index, f => fun k s =>
    match s.captured? index with
    | some text => (repeatText f text s).bind k
    | none => none
  | .conditional index yes no, f => fun k s =>
    if (s.span? index).isSome then yes.run f k s else no.run f k s

/-- The first match at this place or a later one: the place where it ends. -/
def searchFrom (ways : Ways) (before : List Char) (position : Nat) : List Char → Option Place
  | [] => ways some ⟨position, before, [], []⟩
  | c :: rest =>
    match ways some ⟨position, before, c :: rest, []⟩ with
    | some final => some final
    | none => searchFrom ways (c :: before) (position + 1) rest

end TypeMismatch.Pattern
