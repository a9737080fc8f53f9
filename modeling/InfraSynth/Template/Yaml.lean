import InfraSynth.Declaration.Template
import InfraSynth.Yaml.Source

/-!
# Templates in YAML

An output is understood before it is looked at as a definition, so that in a
definition too only texts are texts.
-/

namespace InfraSynth.Template

/-- How outputs are written in YAML. -/
def yamlOutput : Codec Yaml.Tree Error OutputSpec where
  read tree := do OutputSpec.read (← Yaml.orError tree.content?)
  write := OutputSpec.write

/-- The template that a YAML text holds. -/
def ofYamlText (text : String) : Except Error Template := do
  let template ← (record yamlOutput).read (← Yaml.orError (Yaml.Tree.ofText? text))
  template.check
  return template

end InfraSynth.Template
