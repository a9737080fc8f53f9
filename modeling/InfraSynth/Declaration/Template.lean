import InfraSynth.Declaration.Output
import InfraSynth.Declaration.Provider
import InfraSynth.Declaration.Variable
import InfraSynth.Name

/-!
# Templates

A template declares what one configuration document consists of: settings of the
provider, variables, resources in order, and outputs.
-/

namespace InfraSynth

/-- The declaration of a resource. -/
structure Declaration where
  type : String
  name : String
  attributes : Json
  deriving DecidableEq

/-- How a declaration is written. -/
def Declaration.record {σ ε : Type} [Source σ ε] : Record σ ε Declaration where
  name := "Declaration"
  types := _
  fields :=
    .cons (.required "type" .text) <|
    .cons (.required "name" .text) <|
    .cons (.defaulted "attributes" .json (.object [])) .nil
  build := fun (type, name, attributes, ()) => { type, name, attributes }
  row declaration := (declaration.type, declaration.name, declaration.attributes, ())

/-- A template. -/
structure Template where
  name : String
  provider : Option ProviderSettings
  /-- The input variables, by name. -/
  inputs : SortedMap Variable
  resources : List Declaration
  outputs : SortedMap OutputSpec
  deriving DecidableEq

namespace Template

/-- The template with a name and nothing in it. -/
def ofName (name : String) : Template :=
  ⟨name, none, .empty, [], .empty⟩

/-- How a template is written, given how its outputs are. -/
def record {σ ε : Type} [Source σ ε] (output : Codec σ ε OutputSpec) : Record σ ε Template where
  name := "Template"
  types := _
  fields :=
    .cons (.required "name" .text) <|
    .cons { Field.nullable "provider" ProviderSettings.record.codec with
      presence := .defaulted none } <|
    .cons (.defaulted "variables" (.sortedMap Variable.record.codec) .empty) <|
    .cons (.defaulted "resources" (.list Declaration.record.codec) []) <|
    .cons (.defaulted "outputs" output.sortedMap .empty) .nil
  build := fun (name, provider, inputs, resources, outputs, ()) =>
    { name, provider, inputs, resources, outputs }
  row template := (template.name, template.provider, template.inputs, template.resources,
    template.outputs, ())

/-- The name of the template has to be allowed, because it names the document. -/
def check (template : Template) : Except Error Unit :=
  Name.check template.name

/-- The name of the file that the document is written to. -/
def fileName (template : Template) : String :=
  s!"{template.name}.tf.json"

end Template

end InfraSynth
