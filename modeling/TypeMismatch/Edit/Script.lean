import TypeMismatch.Edit.Distance

/-!
# Edit scripts

A script turns one sequence into another by keeping, deleting and inserting items.  It is read from
the table of distances, backwards from the last cell: equal items are kept, else an item is inserted
where that costs no more than a deletion, else one is deleted.  There is no substitution: it is
written as a deletion and an insertion.
-/

namespace TypeMismatch

inductive Edit (α : Type) where
  | keep (item : α)
  | delete (item : α)
  | insert (item : α)
  deriving DecidableEq

namespace Edit

variable {α : Type}

def item : Edit α → α
  | .keep x => x
  | .delete x => x
  | .insert x => x

/-- Does the left sequence hold the item? -/
def inLeft : Edit α → Bool
  | .insert _ => false
  | _ => true

/-- Does the right sequence hold the item? -/
def inRight : Edit α → Bool
  | .delete _ => false
  | _ => true

/-- Does the step keep its item? -/
def isKeep : Edit α → Bool
  | .keep _ => true
  | _ => false

def leftItems (script : List (Edit α)) : List α := (script.filter inLeft).map item

def rightItems (script : List (Edit α)) : List α := (script.filter inRight).map item

/-- The number of insertions and deletions. -/
def cost (script : List (Edit α)) : Nat := (script.filter fun e => !e.isKeep).length

variable [DecidableEq α]

/-- Walks a table back, both sequences being given with their last item first.  `done` is the script
for what follows, and `costs i j` the distance of the first `i` items on the left from the first `j`
on the right.  -/
def walk (costs : Nat → Nat → Nat) (left right : List α) (done : List (Edit α)) : List (Edit α) :=
  match left, right with
  | [], [] => done
  | [], y :: ys => walk costs [] ys (.insert y :: done)
  | x :: xs, [] => walk costs xs [] (.delete x :: done)
  | x :: xs, y :: ys =>
    if x = y then walk costs xs ys (.keep x :: done)
    else if costs (xs.length + 1) ys.length ≤ costs xs.length (ys.length + 1) then
      walk costs (x :: xs) ys (.insert y :: done)
    else walk costs xs (y :: ys) (.delete x :: done)
termination_by left.length + right.length

/-- A script that turns the left sequence into the right one. -/
def script (left right : List α) : List (Edit α) :=
  walk (cell (table left right)) left.reverse right.reverse []

/-- The number of items beyond which no script is made. -/
def maxItems : Nat := 500

/-- A script, unless one of the sequences is longer than the limit. -/
def align (limit : Int) (left right : List α) : Option (List (Edit α)) :=
  if limit < (left.length : Int) || limit < (right.length : Int) then none
  else some (script left right)

end Edit

end TypeMismatch
