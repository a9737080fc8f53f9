import InfraSynth.Command.Arguments
import InfraSynth.Command.Report
import InfraSynth.Config.Toml
import InfraSynth.Files.System

/-!
# Running commands

A run understands its arguments, finds the configuration and the templates, and
carries out what is asked for.  It uses the file system that it is given, in the
order that its failures are found: configuration first, then templates.

## Main definitions

* `loadConfig` and `collect` find what a command works on.
* `writeDocuments` writes the documents of templates to files.
* `run` is a whole run; its `Outcome` is what the process prints and how it ends.
-/

namespace InfraSynth.Command

open Files (FileSystem Kind Location)

/-- What a process prints, and how it ends. -/
structure Outcome where
  output : String
  /-- What is printed to the standard error, log lines apart: warnings and information
  about the run are no part of it. -/
  message : String
  exit : Exit

/-- The outcome of a report. -/
def Report.outcome (report : Report) : Outcome :=
  match report.failure with
  | none => ⟨report.text, "", .success⟩
  | some failure => ⟨report.text, s!"❌ Error: {failure.message}\n", failure.exit⟩

/-- The name of the program and its version. -/
def versionText (command : Option String) : String :=
  let name := command.elim "pangea" ("pangea-" ++ ·)
  s!"{name} 0.1.0\n"

/-- A short text about how the program is used.  It stands for all texts of help and for
all messages about wrong arguments, which say more and differ from command to command. -/
def usageText : String :=
  "Usage: pangea [-v] [-q] [--log-json] [-c FILE] COMMAND\n\n" ++
  "Commands:\n" ++
  "  synth [PATH] [-o DIR] [--stdout]  write the documents of templates\n" ++
  "  validate [PATH]                   check templates\n" ++
  "  resources [--json]                list the types of resources\n" ++
  "  cost [PATH]                       estimate what resources cost\n"

/-- The outcome if there is nothing to do.  How the run ends and where it prints are those
of the program; what it prints is, for the version alone. -/
def Stop.outcome : Stop → Outcome
  | .usage => ⟨"", usageText, .usage⟩
  | .help => ⟨usageText, "", .success⟩
  | .version command => ⟨versionText command, "", .success⟩

variable {m : Type → Type} [Monad m] [FileSystem m]

/-! ## Configuration -/

/-- The variable that names the configuration file. -/
def configVariable : String := "PANGEA_CONFIG"

/-- The configuration file in the working directory. -/
def configFile : String := "pangea.toml"

/-- The settings that the text of a file holds, if it can be read. -/
def configOfText (text : Option String) : Except Error Config :=
  text.elim (.error .inputOutput) Config.ofTomlText

/-- The settings of a file, or those that hold where there is none.  A file that is
asked for has to be there. -/
def configFrom (path : Option String) : ExceptT Failure m Config := do
  let name := path.getD configFile
  match path, ← FileSystem.kind? (m := m) name with
  | some path, none => throw (.missingConfig path)
  | none, none => return .default
  | path, some _ =>
    let text ← FileSystem.read? (m := m) name
    ExceptT.mk (pure ((configOfText text).mapError (.error (path.map .loading))))

/-- The settings with what the environment says about them. -/
def loadConfig (environment : String → Option String) (path : Option String) :
    ExceptT Failure m Config := do
  let config ← configFrom path
  ExceptT.mk (pure ((config.override environment).mapError (.error none)))

/-! ## Templates -/

/-- The templates among the files below a directory, each directory in the order of
names. -/
def templatePaths (directory : String) (files : List Location) : List String :=
  let sorted := files.mergeSort Files.comesFirst
  (sorted.map fun location => Files.join directory ("/".intercalate location)).filter
    Template.isTemplatePath

/-- The paths of the templates at a path: the file there, or all templates below a
directory. -/
def collectPaths (path : String) : ExceptT Failure m (List String) := do
  match ← FileSystem.kind? (m := m) path with
  | none => throw (.missingTemplates path)
  | some .file => return [path]
  | some .directory =>
    let paths := templatePaths path (← FileSystem.below (m := m) path)
    if paths.isEmpty then throw (.noTemplates path) else return paths

/-- The files with templates at a path. -/
def collect (path : String) : ExceptT Failure m (List TemplateFile) := do
  (← collectPaths path).mapM fun path => do
    return ⟨path, ← FileSystem.read? (m := m) path⟩

/-! ## Writing documents -/

/-- Write a document into the directory for documents, which is made if it is not
there; says whether that could be done. -/
def writeDocument (config : Config) (file : SynthesizedFile) : m Bool := do
  let present ← if config.outputDir.isEmpty then pure true
    else FileSystem.makeDirectories config.outputDir
  if present then FileSystem.write (file.target config) file.text else return false

/-- The line for a document that has been written. -/
def writtenLine (config : Config) (file : SynthesizedFile) : String :=
  s!"✅ {file.path} → {file.target config} {file.countText}"

/-- Write the documents of files one after the other until one cannot be written. -/
def writeAll (quiet : Bool) (config : Config) : List SynthesizedFile → m Report
  | [] => return .success []
  | file :: rest => do
    if ← writeDocument config file then
      let report ← writeAll quiet config rest
      let line := if quiet then [] else [writtenLine config file]
      return { report with lines := line ++ report.lines }
    else return ⟨[], some (.error none .inputOutput)⟩

/-- Write the documents of all files.  Nothing is written unless every template can
be carried out. -/
def writeDocuments (quiet : Bool) (config : Config) (files : List TemplateFile) : m Report :=
  match synthesizeAll config files with
  | .error failure => return ⟨[], some failure⟩
  | .ok done => writeAll quiet config done

/-! ## Runs -/

/-- The settings and the files that a request works on. -/
def inputs (environment : String → Option String) (config : Option String) (path : String) :
    ExceptT Failure m (Config × List TemplateFile) := do
  let config ← loadConfig environment config
  return (config, ← collect path)

/-- Go on with settings and files, unless they cannot be found. -/
def withInputs (environment : String → Option String) (config : Option String) (path : String)
    (next : Config → List TemplateFile → m Report) : m Report := do
  match ← (inputs environment config path).run with
  | .error failure => return ⟨[], some failure⟩
  | .ok (config, files) => next config files

/-- Carry out what is asked for. -/
def Invocation.report (environment : String → Option String) (invocation : Invocation) :
    m Report :=
  let withInputs := withInputs environment invocation.config
  match invocation.request with
  | .resources asJson => return resources asJson
  | .validate path => withInputs path fun config files =>
    return validate invocation.quiet config files
  | .cost path => withInputs path fun config files => return cost invocation.quiet config files
  | .synth path output toStdout => withInputs path fun config files => do
    let config := { config with outputDir := output.getD config.outputDir }
    if toStdout then
      let inDirectory := (← FileSystem.kind? path) ≠ some .file
      return printDocuments inDirectory config files
    else writeDocuments invocation.quiet config files

/-- Run the program with arguments. -/
def run (environment : String → Option String) (arguments : List String) : m Outcome :=
  match Invocation.ofArguments (environment configVariable) arguments with
  | .error stop => return stop.outcome
  | .ok invocation => do return (← invocation.report environment).outcome

end InfraSynth.Command
