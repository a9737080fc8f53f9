import InfraSynth.Block.Basic
import InfraSynth.Decode.Value

/-!
# Outputs

An output of a configuration is a value with a description.  A template may give
a full definition or the value alone: what can be read as a definition is one,
and everything else is a value.
-/

namespace InfraSynth

/-- An output. -/
structure Output where
  value : Json
  description : Option String
  sensitive : Bool
  deriving DecidableEq

namespace Output

/-- The output with a value and nothing else. -/
def ofValue (value : Json) : Output :=
  ⟨value, none, false⟩

/-- How an output is written in a template. -/
def record {σ ε : Type} [Source σ ε] : Record σ ε Output where
  name := "Output"
  types := _
  fields :=
    .cons (.required "value" .json) <|
    .cons (.nullable "description" .text) <|
    .cons (.defaulted "sensitive" .flag false) .nil
  build := fun (value, description, sensitive, ()) => { value, description, sensitive }
  row output := (output.value, output.description, output.sensitive, ())

/-- The body of the output in a configuration document. -/
def toBlock (output : Output) : Block :=
  let block := Block.empty
    |>.attr "value" output.value
    |>.optText "description" output.description
  if output.sensitive then block.attr "sensitive" true else block

end Output

/-- An output as it is written in a template. -/
inductive OutputSpec
  | definition (output : Output)
  | bare (value : Json)
  deriving DecidableEq

namespace OutputSpec

/-- The output that is meant. -/
def output : OutputSpec → Output
  | definition output => output
  | bare value => .ofValue value

/-- The output as it was written. -/
def write : OutputSpec → Json
  | definition output => (Output.record : JsonRecord Output).write output
  | bare value => value

/-- Read a value as a definition if that is possible, and for itself if it is
not. -/
def read {σ ε : Type} [Source σ ε] (source : σ) : Except ε OutputSpec :=
  match Output.record.read source with
  | .ok output => .ok (definition output)
  | .error _ => do return bare (← Source.json source)

/-- How outputs are written in a template. -/
def codec {σ ε : Type} [Source σ ε] : Codec σ ε OutputSpec :=
  ⟨read, write⟩

end OutputSpec

end InfraSynth
