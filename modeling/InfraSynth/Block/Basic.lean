import InfraSynth.Collection.SortedMap
import InfraSynth.Json.Printer

/-!
# Blocks

A `Block` is the body of a resource, a provider or another part of a
configuration document: a JSON object that is built key by key.  Writing a key
again replaces its value and keeps its place, and values that are absent or empty
are not written at all.
-/

namespace InfraSynth

/-- A JSON object under construction. -/
structure Block where
  entries : Entries Json
  deriving DecidableEq

namespace Block

/-- The block without entries. -/
def empty : Block :=
  ⟨[]⟩

/-- The block as a JSON object. -/
def toJson (block : Block) : Json :=
  .object block.entries

/-- Write a value. -/
def attr (block : Block) (key : String) (value : Json) : Block :=
  ⟨Entries.insert block.entries key value⟩

/-- Write a value if it is present. -/
def opt (block : Block) (key : String) : Option Json → Block
  | some value => block.attr key value
  | none => block

/-- Write a text if it is present. -/
def optText (block : Block) (key : String) (value : Option String) : Block :=
  block.opt key (value.map .string)

/-- Write a list unless it is empty. -/
def list (block : Block) (key : String) (values : List Json) : Block :=
  if values.isEmpty then block else block.attr key (.array values)

/-- Write a map of texts unless it is empty. -/
def map (block : Block) (key : String) (values : TextMap) : Block :=
  if values.isEmpty then block
  else block.attr key (.object (values.entries.map fun (k, v) => (k, .string v)))

/-- Write a nested block. -/
def nested (block : Block) (key : String) (inner : Block) : Block :=
  block.attr key inner.toJson

/-- Write a nested block if it is present. -/
def optNested (block : Block) (key : String) (inner : Option Block) : Block :=
  block.opt key (inner.map toJson)

/-- Write repeated nested blocks unless there are none. -/
def repeated (block : Block) (key : String) (inner : List Block) : Block :=
  block.list key (inner.map toJson)

/-- Write a JSON value as the text that stands for it. -/
def encoded (block : Block) (key : String) (value : Json) : Block :=
  block.attr key (.string value.compact)

/-- The value of a key. -/
def get? (block : Block) (key : String) : Option Json :=
  Entries.get? block.entries key

/-- Whether a key has been written. -/
def contains (block : Block) (key : String) : Bool :=
  Entries.contains block.entries key

/-- The keys in the order in which they were first written. -/
def keys (block : Block) : List String :=
  Entries.keys block.entries

/-- How many keys have been written. -/
def size (block : Block) : Nat :=
  block.entries.length

/-- Whether nothing has been written. -/
def isEmpty (block : Block) : Bool :=
  block.entries.isEmpty

end Block

end InfraSynth
