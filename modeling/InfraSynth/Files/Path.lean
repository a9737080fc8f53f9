import InfraSynth.Text.Affix

/-!
# Paths of files

A path is a text whose parts stand between slashes.  Empty parts and parts that
consist of a point say nothing about the file, so the name of a file is the last
part that does.  A path that begins with a slash starts at the root, every other
one at the working directory.
-/

namespace InfraSynth.Files

/-- The parts of a list of characters between slashes. -/
def splitSlashes : List Char → List (List Char)
  | [] => [[]]
  | c :: rest =>
    match splitSlashes rest with
    | [] => [[c]]
    | first :: others => if c = '/' then [] :: first :: others else (c :: first) :: others

/-- The parts of a path. -/
def parts (path : String) : List String :=
  (splitSlashes path.toList).map String.ofList

/-- The parts of a path that lead from a directory to another one or to a
file. -/
def steps (path : String) : List String :=
  (parts path).filter fun part => part ≠ "" ∧ part ≠ "."

/-- Whether a path starts at the root. -/
def isAbsolute (path : String) : Bool :=
  path.toList.head? = some '/'

/-- The path of something in a directory. -/
def join (directory path : String) : String :=
  if directory = "" ∨ directory.toList.getLast? = some '/' then directory ++ path
  else directory ++ "/" ++ path

/-- The name of the file that a path leads to; the parent of a directory has no
name. -/
def name? (path : String) : Option String :=
  (steps path).getLast?.filter (· ≠ "..")

/-- What comes after the last point of a name, if there is something before
it. -/
def extensionOf? (name : String) : Option String :=
  let reversed := name.toList.reverse
  match reversed.dropWhile (· ≠ '.') with
  | [] | [_] => none
  | _ :: _ => some (String.ofList (reversed.takeWhile (· ≠ '.')).reverse)

/-- The extension of the file that a path leads to. -/
def extension? (path : String) : Option String :=
  (name? path).bind extensionOf?

end InfraSynth.Files
