/-!
# File systems

What a command asks of the files around it.  `FileSystem m` says that this can be
asked within `m`; an answer that cannot be given is told apart from the others, and
a change that cannot be made leaves the command to decide what follows.
-/

namespace InfraSynth.Files

/-- What there can be at a path. -/
inductive Kind
  | file
  | directory
  deriving DecidableEq, Repr

/-- The names that lead from a directory to something below it. -/
abbrev Location := List String

/-- Whether one place comes before another or is the same, name by name. -/
def comesFirst : Location → Location → Bool
  | [], _ => true
  | _ :: _, [] => false
  | a :: as, b :: bs => a < b || (a = b && comesFirst as bs)

/-- Files can be looked at and changed. -/
class FileSystem (m : Type → Type) where
  /-- What there is at a path. -/
  kind? : String → m (Option Kind)
  /-- The text of the file at a path. -/
  read? : String → m (Option String)
  /-- The files below the directory at a path. -/
  below : String → m (List Location)
  /-- Make a directory and those that it is in; says whether it is there now. -/
  makeDirectories : String → m Bool
  /-- Give the file at a path a text; says whether it has it now. -/
  write : (path text : String) → m Bool

end InfraSynth.Files
