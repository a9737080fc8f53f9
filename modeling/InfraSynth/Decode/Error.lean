import InfraSynth.Json.Basic
import InfraSynth.Number.Written
import InfraSynth.Text.Quoted

/-!
# Decode errors

Attributes are decoded field by field, and the first field that does not fit is
reported.  A `DecodeError` says what does not fit; `DecodeError.message` puts it
into words.
-/

namespace InfraSynth

/-- A kind of value that was found where another one was expected. -/
inductive Found
  | null
  | flag (value : Bool)
  | number (value : Number)
  | text (value : String)
  | list
  | map
  deriving DecidableEq, Repr

/-- The kind of a JSON value. -/
def Found.ofJson : Json → Found
  | .null => .null
  | .bool value => .flag value
  | .number value => .number value
  | .string value => .text value
  | .array _ => .list
  | .object _ => .map

/-- The kind in words. -/
def Found.message : Found → String
  | .null => "null"
  | .flag value => s!"boolean `{value}`"
  | .number (.int value) => s!"integer `{value}`"
  | .number (.float value) => s!"floating point `{value.text}`"
  | .text value => s!"string {Text.quoted value}"
  | .list => "sequence"
  | .map => "map"

/-- Why a value could not be decoded. -/
inductive DecodeError
  | missingField (name : String)
  | duplicateField (name : String)
  | unknownField (name : String) (known : List String)
  | unknownVariant (name : String) (known : List String)
  | invalidType (found : Found) (expected : String)
  | invalidValue (found : Found) (expected : String)
  | invalidLength (length : Nat) (expected : String)
  /-- A policy given as text is not JSON. -/
  | policyText (fault : String)
  /-- A policy is neither an object nor a text. -/
  | policyKind
  deriving DecidableEq, Repr

namespace DecodeError

/-- Names between backticks, separated by commas. -/
def ticked (names : List String) : String :=
  ", ".intercalate (names.map fun name => s!"`{name}`")

/-- The names that would have been accepted; `none` is said if there are
none. -/
def oneOf (none : String) : List String → String
  | [] => none
  | [name] => s!"expected `{name}`"
  | [first, second] => s!"expected `{first}` or `{second}`"
  | names => s!"expected one of {ticked names}"

/-- The error in words. -/
def message : DecodeError → String
  | .missingField name => s!"missing field `{name}`"
  | .duplicateField name => s!"duplicate field `{name}`"
  | .unknownField name known => s!"unknown field `{name}`, " ++ oneOf "there are no fields" known
  | .unknownVariant name known => s!"unknown variant `{name}`, " ++ oneOf "there are no variants" known
  | .invalidType found expected => s!"invalid type: {found.message}, expected {expected}"
  | .invalidValue found expected => s!"invalid value: {found.message}, expected {expected}"
  | .invalidLength length expected => s!"invalid length {length}, expected {expected}"
  | .policyText fault => s!"policy is not valid JSON: {fault}"
  | .policyKind => "policy must be a JSON object or a JSON-encoded string"

/-- A value of the wrong type. -/
def mismatch (value : Json) (expected : String) : DecodeError :=
  .invalidType (.ofJson value) expected

end DecodeError

end InfraSynth
