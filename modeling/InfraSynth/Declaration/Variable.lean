import InfraSynth.Block.Basic
import InfraSynth.Decode.Record

/-!
# Input variables

A variable of a configuration, with everything about it being optional.
-/

namespace InfraSynth

/-- An input variable. -/
structure Variable where
  type : Option String
  description : Option String
  default : Option Json
  sensitive : Bool
  deriving DecidableEq

namespace Variable

/-- How a variable is written in a template. -/
def record {σ ε : Type} [Source σ ε] : Record σ ε Variable where
  name := "Variable"
  types := _
  fields :=
    .cons (.nullable "type" .text) <|
    .cons (.nullable "description" .text) <|
    .cons (.nullable "default" .json) <|
    .cons (.defaulted "sensitive" .flag false) .nil
  build := fun (type, description, default, sensitive, ()) =>
    { type, description, default, sensitive }
  row input := (input.type, input.description, input.default, input.sensitive, ())

/-- The body of the variable in a configuration document. -/
def toBlock (input : Variable) : Block :=
  let block := Block.empty
    |>.optText "type" input.type
    |>.optText "description" input.description
    |>.opt "default" input.default
  if input.sensitive then block.attr "sensitive" true else block

end Variable

end InfraSynth
