import InfraSynth.Declaration.Output
import InfraSynth.Declaration.Provider
import InfraSynth.Declaration.Variable
import InfraSynth.Logged
import InfraSynth.Name
import InfraSynth.Reference

/-!
# Synthesis of configuration documents

A `Synthesizer` collects what has been declared: providers, variables, resources
and outputs.  `Synthesizer.document` puts them into one JSON document.

A declaration that is turned down leaves the synthesizer as it was.  A provider
that is declared again replaces the earlier one and goes to the end; a variable
or an output keeps its place; a resource may be declared only once.
-/

namespace InfraSynth

/-- What has been declared so far. -/
structure Synthesizer where
  providers : List Provider
  /-- The bodies of the input variables, by name. -/
  inputs : Entries Json
  /-- The bodies of the resources, by type and by name. -/
  resources : Entries (Entries Json)
  outputs : Entries Json
  declared : List DeclaredResource

namespace Synthesizer

/-- Nothing has been declared. -/
def empty : Synthesizer :=
  ⟨[], [], [], [], []⟩

/-- Declare a provider. -/
def addProvider (synth : Synthesizer) (provider : Provider) : Synthesizer :=
  { synth with providers := synth.providers.filter (·.name ≠ provider.name) ++ [provider] }

/-- Declare a variable. -/
def addVariable (synth : Synthesizer) (name : String) (input : Variable) :
    Except Error Synthesizer := do
  Name.check name
  return { synth with
    inputs := Entries.insert synth.inputs name input.toBlock.toJson }

/-- Declare an output. -/
def addOutput (synth : Synthesizer) (name : String) (output : Output) :
    Except Error Synthesizer := do
  Name.check name
  return { synth with
    outputs := Entries.insert synth.outputs name output.toBlock.toJson }

/-- The bodies of the resources of a type, by name. -/
def ofType (synth : Synthesizer) (type : String) : Entries Json :=
  (Entries.get? synth.resources type).getD []

/-- The body of a resource. -/
def resource? (synth : Synthesizer) (type name : String) : Option Json :=
  Entries.get? (synth.ofType type) name

/-- Whether a resource has been declared. -/
def contains (synth : Synthesizer) (type name : String) : Bool :=
  (synth.resource? type name).isSome

/-- Add a resource whose name and attributes are good. -/
def insert {α : Type} [Resource α] (synth : Synthesizer) (reference : Reference α) :
    Synthesizer :=
  let type := Resource.typeName α
  let body := (Resource.block reference.attributes).toJson
  { synth with
    resources := Entries.insert synth.resources type
      (Entries.insert (synth.ofType type) reference.name body)
    declared := synth.declared ++ [reference.summary] }

/-- Declare a resource with given attributes. -/
def declare {α : Type} [Resource α] (synth : Synthesizer) (name : String) (attributes : α) :
    Logged (Synthesizer × Reference α) := do
  .ofExcept (Name.check name)
  .warn (Resource.warnings attributes)
  .ofExcept (Resource.validate attributes)
  let reference : Reference α := ⟨name, attributes⟩
  if synth.contains (Resource.typeName α) name then
    .ofExcept (.error (.duplicateResource reference.address))
  else return (synth.insert reference, reference)

/-- Declare a resource whose attributes are given as a JSON value.  They are
checked when they are read, and again when the resource is declared. -/
def declareValue {α : Type} [Resource α] (synth : Synthesizer) (name : String) (value : Json) :
    Logged (Synthesizer × Reference α) := do
  let attributes : α ← .ofExcept (Resource.decode value)
  .warn (Resource.warnings attributes)
  .ofExcept (Resource.validate attributes)
  synth.declare name attributes

/-- How many resources have been declared. -/
def resourceCount (synth : Synthesizer) : Nat :=
  synth.declared.length

/-- The price of the resources that have one, for a month. -/
def monthlyCost (synth : Synthesizer) : Binary64 :=
  .sum (synth.declared.filterMap (·.monthlyCost))

/-- A section of the document, which is left out if it is empty. -/
def section_ (key : String) (entries : Entries Json) : Entries Json :=
  if entries.isEmpty then [] else [(key, .object entries)]

/-- What the document says about the providers. -/
def providerSections (synth : Synthesizer) : Entries Json :=
  if synth.providers.isEmpty then []
  else
    let requirements := synth.providers.map fun p => (p.name, p.requirement.toJson)
    let settings := synth.providers.map fun p => (p.name, p.settings.toJson)
    [("terraform", .object [("required_providers", .object requirements)]),
      ("provider", .object settings)]

/-- The configuration document. -/
def document (synth : Synthesizer) : Json :=
  .object (
    synth.providerSections ++
    section_ "variable" synth.inputs ++
    section_ "resource" (synth.resources.map fun (type, byName) => (type, .object byName)) ++
    section_ "output" synth.outputs)

end Synthesizer

end InfraSynth
