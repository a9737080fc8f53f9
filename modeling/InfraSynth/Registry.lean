import InfraSynth.Aws.Provider
import InfraSynth.Aws.ResourceType
import InfraSynth.Config
import InfraSynth.Declaration.Template
import InfraSynth.Synthesizer

/-!
# Registries

Templates name resources by the names of their types.  A `Registry` holds the
types that are known, sorted by name, and declares resources of those types.

## Main definitions

* `Registry.declare` declares one resource by the name of its type.
* `Registry.synthesize` carries out a whole template.
-/

namespace InfraSynth

open Aws (ResourceType)

/-- The types that are known, by name. -/
abbrev Registry := SortedMap ResourceType

namespace Registry

/-- Make a type known. -/
def register (registry : Registry) (type : ResourceType) : Registry :=
  registry.insert type.name type

/-- The registry of all types. -/
def aws : Registry :=
  ResourceType.all.foldl register .empty

/-- The types that are known, in the order of their names. -/
def types (registry : Registry) : List ResourceType :=
  registry.entries.map (·.2)

/-- Declare a resource of a type that is known. -/
def declare (registry : Registry) (synth : Synthesizer) (type name : String)
    (attributes : Json) : Logged (Synthesizer × DeclaredResource) := do
  match registry.get? type with
  | none => .ofExcept (.error (.unknownType type))
  | some known =>
    let (synth, reference) ← synth.declareValue (α := known.Attributes) name attributes
    return (synth, reference.summary)

/-- The region that holds for a template. -/
def effectiveRegion (template : Template) (config : Config) : String :=
  (template.provider.bind (·.region)).getD config.region

/-- The provider that holds for a template.  What the template says wins over
the configuration, and the tags of both are put together. -/
def effectiveProvider (template : Template) (config : Config) : Provider :=
  let settings := template.provider.getD .empty
  let tags := config.defaultTags.insertAll settings.defaultTags.entries
  { Aws.provider (effectiveRegion template config) (settings.profile.or config.profile) tags with
    version := config.providerVersion }

/-- Carry out a template: variables by name, resources in order, outputs by
name. -/
def synthesize (registry : Registry) (template : Template) (config : Config) :
    Logged Synthesizer := do
  .ofExcept template.check
  .ofExcept (Aws.Region.check (effectiveRegion template config))
  let synth := Synthesizer.empty.addProvider (effectiveProvider template config)
  let synth ← template.inputs.entries.foldlM
    (fun synth (name, input) => .ofExcept (synth.addVariable name input)) synth
  let synth ← template.resources.foldlM (fun synth declaration => do
    let (synth, _) ← registry.declare synth declaration.type declaration.name
      declaration.attributes
    return synth) synth
  template.outputs.entries.foldlM
    (fun synth (name, spec) => .ofExcept (synth.addOutput name spec.output)) synth

end Registry

end InfraSynth
