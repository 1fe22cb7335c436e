import TypeMismatch.Pattern.Escape

/-!
# Sets of characters in brackets

A set lists characters, ranges and classes.  A closing bracket in the first place is a member, and
so is a hyphen that has no two ends to join.
-/

namespace TypeMismatch.Pattern

variable (names : CharacterNames)

/-- A single member of a set: the token that it begins with, what it is, and the scanner after
it. -/
def setMember (t : Token) (start : Nat) (s : Scanner) : Except Refusal (SetItem × Scanner) :=
  match t with
  | .escaped c => setEscape names c start s
  | .plain c => .ok (.code c.toNat, s)
  | .dangling => .ok (.code 92, s)

/-- The range between two members, which have to be characters in ascending order. -/
def rangeOf (low high : SetItem) : Option SetItem :=
  match low, high with
  | .code a, .code b => if b < a then none else some (.range a b)
  | _, _ => none

/-- The members of a set up to its closing bracket; `start` is the place of the opening one, and
`done` are the members so far, the last one first.  Each round takes at least one token, so the
number of tokens is enough fuel. -/
def setMembers (start : Nat) : (fuel : Nat) → (done : List SetItem) → Scanner →
    Except Refusal (List SetItem × Scanner)
  | 0, _, _ => Scanner.refuse .unterminatedSet start
  | fuel + 1, done, s => do
    let (low?, afterLow) ← s.take
    match low? with
    | none => Scanner.refuse .unterminatedSet start
    | some low =>
      if low == .plain ']' && !done.isEmpty then return (done.reverse, afterLow)
      else
        let (lowItem, afterItem) ← setMember names low s.position afterLow
        let (hyphen, afterHyphen) ← afterItem.accept '-'
        if hyphen then
          let (high?, afterHigh) ← afterHyphen.take
          match high? with
          | none => Scanner.refuse .unterminatedSet start
          | some high =>
            if high == .plain ']' then
              return ((.code '-'.toNat :: lowItem :: done).reverse, afterHigh)
            else
              let (highItem, last) ← setMember names high afterHyphen.position afterHigh
              match rangeOf lowItem highItem with
              | some range => setMembers start fuel (range :: done) last
              | none =>
                Scanner.refuse (.badRange low.text high.text)
                  (last.position - (low.width + 1 + high.width))
        else setMembers start fuel (lowItem :: done) afterItem

/-- The node of a set.  A set of one character is that character. -/
def setNode (negated : Bool) (items : List SetItem) : Node :=
  match items.eraseDups with
  | [.code n] => if negated then .notLiteral n else .literal n
  | distinct => .set negated distinct

/-- Reads a set; the scanner stands after the opening bracket, whose place is `start`. -/
def readSet (start : Nat) (s : Scanner) : Except Refusal (Node × Scanner) := do
  let (negated, inner) ← s.accept '^'
  let (items, after) ← setMembers names start (inner.tokens.length + 1) [] inner
  return (setNode negated items, after)

end TypeMismatch.Pattern
