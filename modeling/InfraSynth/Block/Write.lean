import InfraSynth.Block.Basic

/-!
# Building blocks step by step

A `Block.Write` is one step in the construction of a block.  Nested blocks are
themselves given by the steps that build them, so a whole block is described by a
list of writes and `Block.ofWrites` carries them out.
-/

namespace InfraSynth.Block

/-- One step in the construction of a block. -/
inductive Write
  | attr (key : String) (value : Json)
  | opt (key : String) (value : Option Json)
  | optText (key : String) (value : Option String)
  | list (key : String) (values : List Json)
  | map (key : String) (values : TextMap)
  | nested (key : String) (inner : List Write)
  | optNested (key : String) (inner : Option (List Write))
  | emptyNested (key : String)
  | repeated (key : String) (inner : List (List Write))
  | encoded (key : String) (value : Json)

mutual

/-- Carry out one write. -/
def Write.apply : Write → Block → Block
  | .attr key value, block => block.attr key value
  | .opt key value, block => block.opt key value
  | .optText key value, block => block.optText key value
  | .list key values, block => block.list key values
  | .map key values, block => block.map key values
  | .nested key inner, block => block.nested key (applyWrites inner .empty)
  | .optNested key inner, block => block.optNested key (optionalBlock inner)
  | .emptyNested key, block => block.nested key .empty
  | .repeated key inner, block => block.repeated key (blocksOfWrites inner)
  | .encoded key value, block => block.encoded key value

/-- Carry out writes from the first to the last. -/
def applyWrites : List Write → Block → Block
  | [], block => block
  | write :: rest, block => applyWrites rest (write.apply block)

/-- The block built by writes that may be absent. -/
def optionalBlock : Option (List Write) → Option Block
  | none => none
  | some writes => some (applyWrites writes .empty)

/-- The blocks built by several lists of writes. -/
def blocksOfWrites : List (List Write) → List Block
  | [] => []
  | writes :: rest => applyWrites writes .empty :: blocksOfWrites rest

end

/-- The block built by a list of writes. -/
def ofWrites (writes : List Write) : Block :=
  applyWrites writes .empty

end InfraSynth.Block
