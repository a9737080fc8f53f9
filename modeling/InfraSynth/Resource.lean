import InfraSynth.Block.Basic
import InfraSynth.Check.Violation
import InfraSynth.Decode.Value
import InfraSynth.Error

/-!
# Resources

What the attributes of a type of resource have in common: how they are read and
written, what is wrong with them, and what follows from them without asking the
provider.

## Attributes and blocks

The record of a type is the only place that names its attributes.  `Resource.decode`
reads them by this table and `Resource.block` writes the body of the resource by the
same one: the keys in this order, each attribute with what decides whether it is left
out.  Blocks inside the body are records of their own, and policies are attributes
that are written as texts.
-/

namespace InfraSynth

/-- The attributes of one type of resource. -/
class Resource (α : Type) where
  /-- The name of the type in a configuration. -/
  typeName : String
  /-- The attributes that other resources may refer to. -/
  outputs : List String
  /-- The attributes by which a resource is read and its block is written. -/
  record : JsonRecord α
  check : α → Report
  /-- What follows from the attributes. -/
  computed : α → Json
  /-- A rough price for a month in dollars, if the resource has a fixed one. -/
  monthlyCost : α → Option Binary64 := fun _ => none

namespace Resource

variable {α : Type} [Resource α]

/-- The attributes that a JSON value stands for. -/
def decode (value : Json) : Except Error α :=
  match (record : JsonRecord α).read value with
  | .ok attributes => .ok attributes
  | .error error => .error (.invalidAttributes (typeName α) error)

/-- The body of the resource in a configuration document. -/
def block (attributes : α) : Block :=
  ⟨record.entries attributes⟩

/-- Turn down attributes with violations. -/
def validate (attributes : α) : Except Error Unit :=
  let report := check attributes
  if report.isAccepted then .ok () else .error (.rejected ⟨typeName α, report.violations⟩)

/-- The attributes that a JSON value stands for, if nothing is wrong with
them. -/
def ofJson (value : Json) : Except Error α := do
  let attributes ← decode value
  validate attributes
  return attributes

/-- The warnings as they are logged, with the type in front. -/
def warnings (attributes : α) : List String :=
  (check attributes).warnings.map fun warning => s!"{typeName α}: {warning}"

end Resource

end InfraSynth
