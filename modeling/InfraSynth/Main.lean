import InfraSynth.Command.Run

/-!
# The program

The command line, run on the files of the machine.
-/

open InfraSynth Files Command

namespace InfraSynth

/-- Do something that may fail. -/
def attempt (action : IO Unit) : IO Bool := do
  try action; return true
  catch _ => return false

/-- What is in a directory; one that cannot be read counts as empty. -/
def entriesOf (directory : String) : IO (List IO.FS.DirEntry) := do
  let here ← IO.currentDir
  try return (← (here / directory).readDir).toList
  catch _ => return []

/-- Whether an entry is itself a directory; a link to one is not. -/
def isDirectory (entry : IO.FS.DirEntry) : IO Bool := do
  try return (← entry.path.symlinkMetadata).type == .dir
  catch _ => return false

/-- Whether an entry is a file or a link to one. -/
def leadsToFile (entry : IO.FS.DirEntry) : IO Bool := do
  try return (← entry.path.metadata).type == .file
  catch _ => return false

/-- The files below a directory.  No directory is entered through a link. -/
partial def filesBelow (directory : String) : IO (List Location) := do
  let below ← (← entriesOf directory).mapM fun entry => do
    if ← isDirectory entry then
      let inner ← filesBelow (Files.join directory entry.fileName)
      return inner.map (entry.fileName :: ·)
    else if ← leadsToFile entry then return [[entry.fileName]]
    else return []
  return below.flatten

instance : FileSystem IO where
  kind? path := do
    let full := (← IO.currentDir) / path
    if ← full.isDir then return some .directory
    else if ← full.pathExists then return some .file
    else return none
  read? path := do
    try return some (← IO.FS.readFile path)
    catch _ => return none
  below := filesBelow
  makeDirectories path := attempt (IO.FS.createDirAll path)
  write path text := attempt (IO.FS.writeFile path text)

/-- The variables of the environment that mean something. -/
def readEnvironment : IO (List (String × String)) := do
  let names := [configVariable, Config.regionVariable, Config.profileVariable,
    Config.outputDirVariable]
  let found ← names.mapM fun name => do return (← IO.getEnv name).map (name, ·)
  return found.filterMap id

end InfraSynth

def main (arguments : List String) : IO UInt32 := do
  let environment ← readEnvironment
  let outcome ← run (List.lookup · environment) arguments
  IO.print outcome.output
  IO.eprint outcome.message
  return .ofNat outcome.exit.code
