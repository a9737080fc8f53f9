import InfraSynth.Check.Violation
import InfraSynth.Interpolation
import InfraSynth.Pattern.Written
import InfraSynth.Unicode.Classes

/-!
# Checks

A check looks at the value of a field, or at which fields of a group are present,
and lists the violations it finds; no violation means that the check is passed.
The checks of a resource are put together by appending their lists.
-/

namespace InfraSynth.Check

/-- Names in a row, with commas between them. -/
def listed (names : List String) : String :=
  ", ".intercalate names

/-- A violation unless a condition holds. -/
def that (condition : Bool) (rule : Rule) (field message : String) : List Violation :=
  if condition then [] else [⟨rule, field, message⟩]

/-- A violation unless the field is present. -/
def required (field : String) (present : Bool) : List Violation :=
  that present .required field "is required"

/-- The text must hold something other than white space. -/
def notBlank (field value : String) : List Violation :=
  that (!Unicode.isBlank value) .required field "must not be blank"

/-- The text as a whole must match a pattern; `expected` says what the pattern
stands for. -/
def format (field value : String) (pattern : Pattern) (expected : String) : List Violation :=
  that (pattern.accepts value) .format field s!"'{value}' is not {expected}"

/-- Like `format`, but an interpolation is accepted as it is. -/
def formatOrReference (field value : String) (pattern : Pattern) (expected : String) :
    List Violation :=
  if Interpolation.isInterpolation value then [] else format field value pattern expected

/-- Some part of the text must match a pattern that is given as text. -/
def formatWritten (field value pattern expected : String) : List Violation :=
  match Pattern.ofText? pattern with
  | some pattern => that (pattern.occursIn value) .format field s!"'{value}' is not {expected}"
  | none => [⟨.format, field, "invalid pattern"⟩]

/-- Like `formatWritten`, but an interpolation is accepted as it is. -/
def formatWrittenOrReference (field value pattern expected : String) : List Violation :=
  if Interpolation.isInterpolation value then []
  else formatWritten field value pattern expected

/-- The number must lie between two bounds. -/
def range (field : String) (value low high : Int) : List Violation :=
  that (low ≤ value && value ≤ high) .range field
    s!"{value} is outside the allowed range {low}..={high}"

/-- The number of characters must lie between two bounds. -/
def length (field value : String) (low high : Nat) : List Violation :=
  that (low ≤ value.length && value.length ≤ high) .length field
    s!"length {value.length} is outside the allowed range {low}..={high}"

/-- The text must be one of those allowed. -/
def oneOf (field value : String) (allowed : List String) : List Violation :=
  that (allowed.contains value) .enumeration field
    s!"'{value}' must be one of: {listed allowed}"

/-- Fields that are looked at together, and whether each is present. -/
abbrev Group := List (String × Bool)

namespace Group

/-- The names of the fields that are present. -/
def present (group : Group) : List String :=
  (group.filter (·.2)).map (·.1)

/-- The names of the fields that are absent. -/
def missing (group : Group) : List String :=
  (group.filter (!·.2)).map (·.1)

/-- The names of all fields. -/
def label (group : Group) : String :=
  listed (group.map (·.1))

end Group

/-- Not more than one field of the group may be present. -/
def atMostOneOf (group : Group) : List Violation :=
  that (group.present.length ≤ 1) .mutuallyExclusive group.label
    s!"only one of these may be set, got: {listed group.present}"

/-- One field of the group must be present, and no other one. -/
def exactlyOneOf (group : Group) : List Violation :=
  let got := if group.present.isEmpty then "none" else listed group.present
  that (group.present.length = 1) .exactlyOne group.label
    s!"exactly one of these must be set, got: {got}"

/-- All fields of the group must be present, or none. -/
def allOrNone (group : Group) : List Violation :=
  that (group.present.isEmpty || group.present.length = group.length) .mutuallyDependent
    group.label s!"must be set together, missing: {listed group.missing}"

/-- A field that is present needs another one. -/
def requires (field : String) (present : Bool) (dependency : String)
    (dependencyPresent : Bool) : List Violation :=
  that (!present || dependencyPresent) .conditional field s!"requires {dependency} to be set"

/-- A field may not be present under a condition, which `reason` states. -/
def forbids (field : String) (present condition : Bool) (reason : String) : List Violation :=
  that (!(present && condition)) .conditional field s!"is not allowed {reason}"

/-- The values that occur again after they have been seen, each once, in the
order of their second occurrences. -/
def repetitions {α : Type} [BEq α] (seen found : List α) : List α → List α
  | [] => []
  | x :: rest =>
    if seen.contains x then
      if found.contains x then repetitions seen found rest
      else x :: repetitions seen (x :: found) rest
    else repetitions (x :: seen) found rest

/-- No value of a list may occur twice. -/
def unique (field : String) (values : List String) : List Violation :=
  let repeated := repetitions [] [] values
  that repeated.isEmpty .unique field s!"duplicate values: {listed repeated}"

/-- The number of entries must lie between two bounds; there may be no upper
one. -/
def count (field : String) (size low : Nat) (high : Option Nat) : List Violation :=
  match high with
  | some high =>
    that (low ≤ size && size ≤ high) .count field s!"needs {low}..={high} entries, got {size}"
  | none => that (low ≤ size) .count field s!"needs at least {low} entries, got {size}"

end InfraSynth.Check
