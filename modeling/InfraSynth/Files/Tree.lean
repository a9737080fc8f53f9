import InfraSynth.Collection.Entries
import InfraSynth.Files.Path
import InfraSynth.Files.System

/-!
# Trees of files

A file system as a value: a tree of directories and files, and the directory that
paths start from.

## Main definitions

* `FileTree.at?` and `FileTree.put?` look at a place of a tree and change it.
* `Disk.locate?` is the place that a path leads to.
* `FileTree.changes` are the files that one tree has and another has not.
-/

namespace InfraSynth.Files

/-- Directories and files. -/
inductive FileTree
  /-- A file; one that holds no text cannot be read. -/
  | file (text : Option String)
  | directory (entries : List (String × FileTree))

namespace FileTree

/-- The tree at a place. -/
def at? : Location → FileTree → Option FileTree
  | [], tree => some tree
  | name :: rest, .directory entries => (Entries.get? entries name).bind (at? rest)
  | _ :: _, .file _ => none

/-- Put a tree at a place in a directory that exists. -/
def put? (new : FileTree) : Location → FileTree → Option FileTree
  | [], _ => some new
  | [name], .directory entries => some (.directory (Entries.insert entries name new))
  | name :: rest, .directory entries => do
    let inner ← put? new rest (← Entries.get? entries name)
    some (.directory (Entries.insert entries name inner))
  | _ :: _, .file _ => none

/-- What there is at the root of a tree. -/
def kind : FileTree → Kind
  | .file _ => .file
  | .directory _ => .directory

/-- The text of a file. -/
def text? : FileTree → Option String
  | .file text => text
  | .directory _ => none

mutual

/-- The files of a tree. -/
def files : FileTree → List (Location × Option String)
  | .file text => [([], text)]
  | .directory entries => filesOf entries

/-- The files of the trees in a directory. -/
def filesOf : List (String × FileTree) → List (Location × Option String)
  | [] => []
  | (name, tree) :: rest =>
    (files tree).map (fun (location, text) => (name :: location, text)) ++ filesOf rest

end

/-- The files of a tree that another tree has not, or has with another text. -/
def changes (old new : FileTree) : List (Location × String) :=
  new.files.filterMap fun (location, text) =>
    if (old.at? location).bind text? = text then none else text.map (location, ·)

end FileTree

/-- A tree of files, and the place in it that paths start from. -/
structure Disk where
  root : FileTree
  here : Location

namespace Disk

/-- The disk with one directory, in which a command works. -/
def empty : Disk :=
  ⟨.directory [("work", .directory [])], ["work"]⟩

/-- The place where a path starts. -/
def start (disk : Disk) (path : String) : Location :=
  if isAbsolute path then [] else disk.here

/-- What there is at a place. -/
def kindAt? (disk : Disk) (location : Location) : Option Kind :=
  (disk.root.at? location).map FileTree.kind

/-- The place that a part of a path leads to from another place. -/
def step? (disk : Disk) (location : Location) (part : String) : Option Location :=
  if disk.kindAt? location ≠ some .directory then none
  else if part = "" ∨ part = "." then some location
  else if part = ".." then some location.dropLast
  else if (disk.kindAt? (location ++ [part])).isSome then some (location ++ [part])
  else none

/-- The place that a path leads to, if there is something. -/
def locate? (disk : Disk) (path : String) : Option Location :=
  (parts path).foldlM disk.step? (disk.start path)

/-- The tree at a path. -/
def tree? (disk : Disk) (path : String) : Option FileTree := do
  disk.root.at? (← disk.locate? path)

/-- The disk with a tree at a place. -/
def put? (disk : Disk) (location : Location) (tree : FileTree) : Option Disk := do
  some { disk with root := ← FileTree.put? tree location disk.root }

/-- Go on to a part of a path, making a directory if there is nothing yet. -/
def enter? : Disk × Location → String → Option (Disk × Location)
  | (disk, location), part =>
    match disk.step? location part with
    | some next => some (disk, next)
    | none => do
      let next := location ++ [part]
      some (← disk.put? next (.directory []), next)

/-- The disk with a directory at a path. -/
def makeDirectories? (disk : Disk) (path : String) : Option Disk := do
  let (disk, location) ← (parts path).foldlM enter? (disk, disk.start path)
  if disk.kindAt? location = some .directory then some disk else none

/-- The disk with a file of the given text at a path, in a directory that exists. -/
def write? (disk : Disk) (path text : String) : Option Disk := do
  let directory ← (parts path).dropLast.foldlM disk.step? (disk.start path)
  let name ← (parts path).getLast?
  let location := directory ++ [name]
  if name = "" ∨ name = "." ∨ name = ".." then none
  else if disk.kindAt? location = some .directory then none
  else disk.put? location (.file text)

/-- Make a change if it can be made. -/
def change (change? : Disk → Option Disk) : StateM Disk Bool := do
  match change? (← get) with
  | some disk => set disk; return true
  | none => return false

instance : FileSystem (StateM Disk) where
  kind? path := do return ((← get).tree? path).map FileTree.kind
  read? path := do return ((← get).tree? path).bind FileTree.text?
  below path := do
    return (((← get).tree? path).map FileTree.files).getD [] |>.map (·.1)
  makeDirectories path := change (makeDirectories? · path)
  write path text := change (write? · path text)

end Disk

end InfraSynth.Files
