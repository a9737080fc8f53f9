import InfraSynth.Declaration.Template
import InfraSynth.Json.Source

/-!
# Templates in JSON
-/

namespace InfraSynth.Template

/-- The template that a JSON text holds. -/
def ofJsonText (text : String) : Except Error Template := do
  let template ← (Json.decode (record OutputSpec.codec).read text).mapError .json
  template.check
  return template

/-- A template as JSON. -/
def toJson (template : Template) : Json :=
  (record OutputSpec.codec : JsonRecord Template).write template

end InfraSynth.Template
