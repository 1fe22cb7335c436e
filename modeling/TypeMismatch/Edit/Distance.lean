/-!
# Edit distance

The least number of insertions, deletions and substitutions that turn one sequence into another.
`table` holds the distances of all prefixes and is what an edit script is read from; `distance`
keeps one row at a time.
-/

namespace TypeMismatch.Edit

variable {α : Type} [DecidableEq α]

/-- The cost of writing one item for another. -/
def substitution (x y : α) : Nat := if x = y then 0 else 1

/-- The cells of a row after its first, given the last item `x` of the left prefix, the cell above
to the left, the cell to the left, and the cells above.  -/
def cells (x : α) : List α → (diagonal left : Nat) → (above : List Nat) → List Nat
  | y :: ys, diagonal, left, up :: above =>
    let cell := min (min (up + 1) (left + 1)) (diagonal + substitution x y)
    cell :: cells x ys up cell above
  | _, _, _, _ => []

/-- The row after a given row: the left prefix grows by `x`. -/
def nextRow (x : α) (right : List α) : List Nat → List Nat
  | [] => []
  | corner :: above => (corner + 1) :: cells x right corner (corner + 1) above

/-- A row and those after it, one for each further item on the left. -/
def rowsFrom (right : List α) (row : List Nat) : List α → List (List Nat)
  | [] => [row]
  | x :: left => row :: rowsFrom right (nextRow x right row) left

/-- The table of distances: row `i`, column `j` holds the distance of the first `i` items on the
left from the first `j` items on the right.  -/
def table (left right : List α) : List (List Nat) :=
  rowsFrom right (List.range (right.length + 1)) left

def cell (rows : List (List Nat)) (i j : Nat) : Nat := ((rows[i]?.getD [])[j]?).getD 0

/-- Writes a row over the one before it, in place: each pair is an item on the right with the old
cell of its column, and `diagonal` is the old cell and `left` the new cell of the column before.  -/
def overwrite (x : α) (diagonal left : Nat) : List (α × Nat) → List (α × Nat)
  | [] => []
  | (y, above) :: rest =>
    let new := min (min (above + 1) (left + 1)) (diagonal + if x = y then 0 else 1)
    (y, new) :: overwrite x above new rest

/-- The last row, by overwriting: `count` items on the left have been taken. -/
def sweep (count : Nat) (row : List (α × Nat)) : List α → List (α × Nat)
  | [] => row
  | x :: rest => sweep (count + 1) (overwrite x count (count + 1) row) rest

/-- The distance of a sequence from a shorter one. -/
def distanceTo (short long : List α) : Nat :=
  let row := sweep 0 (short.zip (List.range' 1 short.length)) long
  match row.getLast? with
  | some (_, last) => last
  | none => long.length

/-- The distance of two sequences. -/
def distance (a b : List α) : Nat :=
  if a.length < b.length then distanceTo a b else distanceTo b a

end TypeMismatch.Edit
