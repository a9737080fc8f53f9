import InfraSynth.Config
import InfraSynth.Error
import InfraSynth.Toml.Document

/-!
# Configuration files

Values of configuration files as a source, and the settings that a file holds.
What is wrong with the notation of a file is not told apart.
-/

namespace InfraSynth.Toml

/-- The key of the only entry of the table that a date or time stands for. -/
def momentKey : String :=
  "$__toml_private_datetime"

/-- The entries of a table, or of what stands for one. -/
def Value.entries? : Value → Option (List (String × Value))
  | .table entries => some entries
  | .moment value => some [(momentKey, .text value.toText)]
  | .text _ => none

/-- The value, or the error if there is none. -/
def orError {α : Type} (value : Option α) : Except Error α :=
  value.elim (.error .toml) .ok

instance : Source Value Error where
  failure _ := .toml
  surplus _ := .toml
  isAbsent _ := .ok false
  text
    | .text value => .ok value
    | _ => .error .toml
  flag _ := .error .toml
  json _ := .error .toml
  list _ := .error .toml
  entries value := orError (value.entries?.map .complete)
  record _ _ value := orError (value.entries?.map fun entries => .named (.complete entries))

end InfraSynth.Toml

namespace InfraSynth.Config

/-- The settings that a configuration file holds. -/
def ofTomlText (text : String) : Except Error Config := do
  match Toml.parse? text with
  | none => .error .toml
  | some value => do
    let config ← record.read value
    config.check
    return config

end InfraSynth.Config
