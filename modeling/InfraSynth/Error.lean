import InfraSynth.Check.Violation
import InfraSynth.Decode.Error
import InfraSynth.Json.Fault

/-!
# Errors

Everything that can keep a configuration from being synthesized.  Each
constructor is one cause with the data that its message needs, and
`Error.message` puts it into words.  What the readers of texts and the file
system have to say beyond the kind of the problem is not part of the message.
-/

namespace InfraSynth

/-- Why the text of a JSON document was not accepted. -/
inductive DocumentError
  /-- The text is not JSON. -/
  | text (fault : Json.Fault)
  /-- The value does not have the expected shape. -/
  | shape (error : DecodeError)
  /-- A list has more values than the record it stands for. -/
  | surplus
  deriving DecidableEq, Repr

/-- What is wrong with the settings of a run. -/
inductive SettingsError
  | blankRegion
  | blankVersion
  | invalidRegion (region : String)
  deriving DecidableEq, Repr

/-- The problem in words. -/
def SettingsError.message : SettingsError → String
  | .blankRegion => "region must not be empty"
  | .blankVersion => "provider_version must not be empty"
  | .invalidRegion region => s!"'{region}' is not a valid AWS region"

/-- Why something could not be done. -/
inductive Error
  | rejected (rejection : Rejection)
  | invalidAttributes (resourceType : String) (error : DecodeError)
  | invalidName (name : String)
  | duplicateResource (address : String)
  | unknownType (resourceType : String)
  | unsupportedFormat (path : String)
  | settings (error : SettingsError)
  | inputOutput
  | json (error : DocumentError)
  | yaml
  | toml
  deriving DecidableEq, Repr

namespace Error

/-- The error in words. -/
def message : Error → String
  | rejected rejection => rejection.message
  | invalidAttributes resourceType error =>
    s!"Invalid attributes for {resourceType}: {error.message}"
  | invalidName name =>
    s!"Invalid resource name '{name}': must start with a letter or underscore and contain " ++
      "only letters, digits, underscores and hyphens"
  | duplicateResource address => s!"Resource already declared: {address}"
  | unknownType resourceType => s!"Unknown resource type: {resourceType}"
  | unsupportedFormat path => s!"Unsupported template format: {path}"
  | settings error => s!"Configuration error: {error.message}"
  | inputOutput => "IO error:"
  | json _ => "JSON error:"
  | yaml => "YAML error:"
  | toml => "TOML parsing error:"

/-- Whether the error says that a declaration is wrong in itself. -/
def isValidation : Error → Bool
  | rejected _ | invalidAttributes .. | invalidName _ => true
  | _ => false

end Error

end InfraSynth
