import InfraSynth.Error
import InfraSynth.Text.Affix

/-!
# Failures of commands

Why a command failed: because of an error, together with what was being done when
it came up, or because of something that only a command can find.  A `Failure`
decides what is printed and which code the process ends with.
-/

namespace InfraSynth.Command

/-- How a process ends. -/
inductive Exit
  | success
  /-- Something else than the input is wrong. -/
  | general
  /-- The arguments or the configuration are wrong. -/
  | usage
  /-- A declaration is wrong. -/
  | validation
  /-- A template cannot be used. -/
  | template
  deriving DecidableEq, Repr

/-- The code of the process. -/
def Exit.code : Exit → Nat
  | .success => 0
  | .general => 1
  | .usage => 2
  | .validation => 3
  | .template => 4

/-- What was being done. -/
inductive Task
  | loading (path : String)
  | reading (path : String)
  | synthesizing (path : String)
  deriving DecidableEq, Repr

/-- That a task could not be done. -/
def Task.message : Task → String
  | .loading path => s!"Failed to load {path}"
  | .reading path => s!"Failed to read template {path}"
  | .synthesizing path => s!"Failed to synthesize {path}"

/-- Why a command failed. -/
inductive Failure
  /-- An error, and what was being done. -/
  | error (task : Option Task) (cause : Error)
  | missingConfig (path : String)
  | missingTemplates (path : String)
  | noTemplates (path : String)
  /-- Two templates have one name, so their documents would be one file. -/
  | sameName (first second name : String)
  | invalidTemplates (failed total : Nat)
  deriving DecidableEq, Repr

namespace Failure

/-- The failure in words. -/
def message : Failure → String
  | error none cause => cause.message
  | error (some task) cause => s!"{task.message}: {cause.message}"
  | missingConfig path => s!"Configuration file not found: {path}"
  | missingTemplates path => s!"Template path not found: {path}"
  | noTemplates path => s!"No templates found under {path}"
  | sameName first second name =>
    s!"Templates {first} and {second} are both named '{name}' and would write the same output file"
  | invalidTemplates failed total => s!"{failed} of {total} template(s) failed validation"

end Failure

/-- How a process ends because of an error. -/
def exitOfError : Error → Exit
  | .rejected _ | .invalidAttributes .. | .invalidName _ | .duplicateResource _ | .unknownType _ =>
    .validation
  | .unsupportedFormat _ | .json _ | .yaml => .template
  | .settings _ | .toml => .usage
  | .inputOutput => .general

/-- How a process ends because of something that is only told in words: the words
decide, those for declarations before those for templates. -/
def exitOfWords (message : String) : Exit :=
  let words := Text.lowerAscii message
  if Text.contains words "validation" then .validation
  else if Text.contains words "template" then .template
  else if Text.contains words "argument" || Text.contains words "not found" then .usage
  else .general

/-- How a process ends because of a failure. -/
def Failure.exit : Failure → Exit
  | .error _ cause => exitOfError cause
  | failure => exitOfWords failure.message

end InfraSynth.Command
