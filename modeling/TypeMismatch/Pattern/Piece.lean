import TypeMismatch.Pattern.Syntax

/-!
# Pieces of a sequence

While a pattern is read, each part keeps what a following quantifier and an enclosing alternative
have to know: whether it may be repeated, and how wide it is.  Parentheses that neither capture nor
change a flag leave their contents in one bundle until the sequence around them ends.
-/

namespace TypeMismatch.Pattern

/-- A part of a sequence that is being read. -/
inductive Piece where
  | single (node : Node) (width : Width)
  | place (a : Anchor)
  | loop (node : Node) (width : Width)
  | bundle (pieces : List Piece)

namespace Piece

/-- The contents of a bundle; any other piece is alone. -/
def unpacked : Piece → List Piece
  | .bundle pieces => pieces
  | piece => [piece]

mutual

def node : Piece → Node
  | .single node _ => node
  | .place a => .anchor a
  | .loop node _ => node
  | .bundle pieces => Node.ofList (nodes pieces)

def nodes : List Piece → List Node
  | [] => []
  | piece :: rest => piece.node :: nodes rest

end

mutual

def width : Piece → Width
  | .single _ width => width
  | .place _ => .zero
  | .loop _ width => width
  | .bundle pieces => total pieces

def total : List Piece → Width
  | [] => .zero
  | piece :: rest => piece.width.add (total rest)

end

def sequenceWidth (pieces : List Piece) : Width := total pieces

def sequenceNode (pieces : List Piece) : Node := Node.ofList (nodes pieces)

/-- Are two pieces the same part without inner parts? -/
def same : Piece → Piece → Bool
  | .place a, .place b => a == b
  | .single (.literal m) _, .single (.literal n) _ => m == n
  | .single (.notLiteral m) _, .single (.notLiteral n) _ => m == n
  | .single .any _, .single .any _ => true
  | .single (.set p xs) _, .single (.set q ys) _ => p == q && xs == ys
  | .single (.backref m) _, .single (.backref n) _ => m == n
  | _, _ => false

/-- The first pieces that all alternatives share, and what is left of each alternative.  Each round
shortens the alternatives, so the length of one of them is enough fuel. -/
def shared : (fuel : Nat) → List (List Piece) → List Piece × List (List Piece)
  | 0, alternatives => ([], alternatives)
  | fuel + 1, alternatives =>
    match alternatives with
    | (head :: _) :: _ =>
      let starts := alternatives.all fun
        | [] => false
        | piece :: _ => same piece head
      if starts then
        let (more, rest) := shared fuel (alternatives.map List.tail)
        (head :: more, rest)
      else ([], alternatives)
    | _ => ([], alternatives)

/-- The members of an alternative that is one character or one set that is not negated. -/
def setItems? : List Piece → Option (List SetItem)
  | [.single (.literal n) _] => some [.code n]
  | [.single (.set false items) _] => some items
  | _ => none

def choice (alternatives : List (List Piece)) : Piece :=
  match alternatives.map sequenceNode, alternatives.map sequenceWidth with
  | first :: rest, width :: widths =>
    .single (Node.choice first rest) (widths.foldl Width.join width)
  | _, _ => .single .empty .zero

/-- The pieces of an alternation.  What all alternatives begin with stands in front of the choice,
and alternatives of one character each make a set. -/
def alternation (alternatives : List (List Piece)) : List Piece :=
  match alternatives with
  | [only] => only
  | _ =>
    let (common, rest) := shared ((alternatives.headD []).length) alternatives
    match rest.mapM setItems? with
    | some sets => common ++ [.single (.set false sets.flatten.eraseDups) .one]
    | none => common ++ [choice rest]

end Piece

end TypeMismatch.Pattern
