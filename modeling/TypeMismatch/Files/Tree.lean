import TypeMismatch.Failure
import TypeMismatch.Files.Path

/-!
# A tree of files

Files are found by the steps of their path from the current directory.  A directory is there if a
file lies in it or further down.  Outside of the current directory there is nothing but the
directories above it.
-/

namespace TypeMismatch.Files

/-- Files by their steps from the current directory. -/
structure Tree where
  files : List (List String × ByteArray)

namespace Tree

/-- The tree without files. -/
def empty : Tree := ⟨[]⟩

/-- The tree with one more file; a file of the same path is replaced. -/
def add (tree : Tree) (path : String) (content : ByteArray) : Tree :=
  let steps := (Path.ofText path).steps
  ⟨(steps, content) :: tree.files.filter fun file => file.1 != steps⟩

def content? (tree : Tree) (steps : List String) : Option ByteArray :=
  (tree.files.find? fun file => file.1 == steps).map (·.2)

def isDirectory (tree : Tree) (steps : List String) : Bool :=
  steps.isEmpty || tree.files.any fun file => steps.isPrefixOf file.1 && file.1 != steps

/-- The greatest number of bytes in a step. -/
def longestStep : Nat := 255

/-- The number of bytes from which on a path is too long. -/
def pathBytes : Nat := 4096

/-- A place in the tree: the steps to it, or a number of directories above the current one. -/
inductive Place where
  | inside (steps : List String)
  | above (levels : Nat)

/-- One step up from a place. -/
def Place.parent : Place → Place
  | .inside [] => .above 1
  | .inside steps => .inside steps.dropLast
  | .above levels => .above (levels + 1)

/-- Takes one step from a place, which has to be a directory. -/
def step (tree : Tree) (place : Place) (name : String) : Except FileFault Place :=
  match place with
  | .above _ =>
    if name == Path.up then .ok place.parent
    else if longestStep < name.utf8ByteSize then .error .longName
    else .error .missing
  | .inside steps =>
    if !tree.isDirectory steps then .error .notDirectory
    else if name == Path.up then .ok place.parent
    else if longestStep < name.utf8ByteSize then .error .longName
    else
      let next := steps ++ [name]
      if (tree.content? next).isSome || tree.isDirectory next then .ok (.inside next)
      else .error .missing

def read (tree : Tree) (path : Path) : Except FileFault ByteArray := do
  if path.text.toList.any (· == '\x00') then .error .unusableName
  else if pathBytes ≤ path.text.utf8ByteSize then .error .longName
  else
    let start : Place := if path.root.isEmpty then .inside [] else .above 1
    let place ← path.steps.foldlM tree.step start
    match place with
    | .above _ => .error .isDirectory
    | .inside steps =>
      match tree.content? steps with
      | some content => .ok content
      | none => .error .isDirectory

end Tree

end TypeMismatch.Files
