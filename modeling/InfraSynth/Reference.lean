import InfraSynth.Interpolation
import InfraSynth.Resource

/-!
# References to declared resources

A declared resource is known by its type and its name, which together are its
address.  Other resources refer to its attributes by interpolations.  What is
kept of it apart from its body is a `DeclaredResource`, which does not depend on
the type of the attributes.
-/

namespace InfraSynth

/-- The address of a resource. -/
def Interpolation.address (type name : String) : String :=
  s!"{type}.{name}"

/-- A declared resource without its attributes. -/
structure DeclaredResource where
  type : String
  name : String
  /-- The outputs with the interpolations that refer to them. -/
  outputs : List (String × String)
  computed : Json
  monthlyCost : Option Binary64
  deriving DecidableEq

namespace DeclaredResource

/-- The address of the resource. -/
def address (resource : DeclaredResource) : String :=
  Interpolation.address resource.type resource.name

/-- The interpolation for an output. -/
def output? (resource : DeclaredResource) (output : String) : Option String :=
  resource.outputs.lookup output

/-- The resource as JSON. -/
def toJson (resource : DeclaredResource) : Json :=
  .object [
    ("resource_type", resource.type),
    ("name", resource.name),
    ("outputs", .array (resource.outputs.map fun (output, value) => .strings [output, value])),
    ("computed", resource.computed),
    ("estimated_monthly_cost", .orNull (resource.monthlyCost.map .float))]

end DeclaredResource

/-- A declared resource with its attributes. -/
structure Reference (α : Type) where
  name : String
  attributes : α

namespace Reference

variable {α : Type} [Resource α] (reference : Reference α)

/-- The address of the resource. -/
def address : String :=
  Interpolation.address (Resource.typeName α) reference.name

/-- The interpolation for an attribute. -/
def interpolate (output : String) : String :=
  Interpolation.ofResource (Resource.typeName α) reference.name output

/-- The outputs with the interpolations that refer to them. -/
def outputs : List (String × String) :=
  (Resource.outputs α).map fun output => (output, reference.interpolate output)

/-- The interpolation for an output. -/
def output? (output : String) : Option String :=
  reference.outputs.lookup output

/-- The interpolation for the identifier. -/
def id : String :=
  reference.interpolate "id"

/-- The interpolation for the resource name. -/
def arn : String :=
  reference.interpolate "arn"

/-- What is kept of the resource. -/
def summary : DeclaredResource where
  type := Resource.typeName α
  name := reference.name
  outputs := reference.outputs
  computed := Resource.computed reference.attributes
  monthlyCost := Resource.monthlyCost reference.attributes

end Reference

end InfraSynth
