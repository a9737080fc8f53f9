import InfraSynth.Command.Failure
import InfraSynth.Registry
import InfraSynth.Template.Format
import InfraSynth.Template.Json
import InfraSynth.Template.Yaml

/-!
# Files with templates

What a command does with every file: read the template that it holds, in the
format that its name shows, and carry it out.
-/

namespace InfraSynth.Command

/-- A file as it was found, with its text unless it cannot be read. -/
structure TemplateFile where
  path : String
  text : Option String

/-- A file whose template has been carried out. -/
structure SynthesizedFile where
  path : String
  template : Template
  synth : Synthesizer

namespace TemplateFile

/-- The template in the file. -/
def template (file : TemplateFile) : Except Error Template :=
  match Template.Format.ofPath? file.path, file.text with
  | none, _ => .error (.unsupportedFormat file.path)
  | some _, none => .error .inputOutput
  | some .yaml, some text => Template.ofYamlText text
  | some .json, some text => Template.ofJsonText text

/-- Carry out the template in the file. -/
def synthesize (config : Config) (file : TemplateFile) : Except Failure SynthesizedFile := do
  let template ← file.template.mapError (.error (some (.reading file.path)))
  let synth ← (Registry.aws.synthesize template config).result.mapError
    (.error (some (.synthesizing file.path)))
  return ⟨file.path, template, synth⟩

end TemplateFile

namespace SynthesizedFile

/-- The name of the template. -/
def name (file : SynthesizedFile) : String :=
  file.template.name

/-- The path of the file that the document is written to. -/
def target (config : Config) (file : SynthesizedFile) : String :=
  Files.join config.outputDir file.template.fileName

/-- The text of the document. -/
def text (file : SynthesizedFile) : String :=
  file.synth.document.pretty ++ "\n"

/-- How many resources there are, in words. -/
def countText (file : SynthesizedFile) : String :=
  s!"({file.synth.resourceCount} resource(s))"

end SynthesizedFile

/-- Carry out the templates of all files.  The first failure counts, and that two
templates have one name is a failure at the second of them. -/
def synthesizeAll (config : Config) (files : List TemplateFile) :
    Except Failure (List SynthesizedFile) :=
  files.foldlM (fun done file => do
    let next ← file.synthesize config
    match done.find? (·.name = next.name) with
    | some previous => .error (.sameName previous.path next.path next.name)
    | none => return done ++ [next]) []

end InfraSynth.Command
