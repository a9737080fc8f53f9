import InfraSynth.Collection.SortedMap
import InfraSynth.Decode.Error

/-!
# Sources of values

A declaration may be written as JSON or as YAML, and attributes come as values
that were read before.  `Source` is what decoding needs to know about such a
notation: how it gives a text, a flag, a list or the fields of a record, and
how its errors are reported.

Lists and entries may end in an error, because a text may go wrong after some of
its parts have been read; the parts come first.
-/

namespace InfraSynth

/-- Parts of a container in order, and the error after the last of them if the
container is not complete. -/
structure Listing (α ε : Type) where
  parts : List α
  failure : Option ε

/-- The complete listing of some parts. -/
def Listing.complete {α ε : Type} (parts : List α) : Listing α ε :=
  ⟨parts, none⟩

/-- Read the parts from the first to the last. -/
def Listing.traverse {α β ε : Type} (read : α → Except ε β) (listing : Listing α ε) :
    Except ε (List β) := do
  let values ← listing.parts.mapM read
  match listing.failure with
  | some failure => .error failure
  | none => .ok values

/-- The two ways of writing a record: with the names of its fields, or as the
list of its values. -/
inductive RecordSource (σ ε : Type)
  | named (entries : Listing (String × σ) ε)
  | positional (values : Listing σ ε)

/-- A notation that values are decoded from. -/
class Source (σ : Type) (ε : outParam Type) where
  /-- The error for something that does not fit. -/
  failure : DecodeError → ε
  /-- The error for a list that has more values than the record has fields. -/
  surplus : (count : Nat) → ε
  /-- Whether the value stands for an absent one. -/
  isAbsent : σ → Except ε Bool
  text : σ → Except ε String
  flag : σ → Except ε Bool
  json : σ → Except ε Json
  list : σ → Except ε (Listing σ ε)
  entries : σ → Except ε (Listing (String × σ) ε)
  /-- The fields of a record with the given name, which has fields with the
  given names in this order. -/
  record : (name : String) → (fields : List String) → σ → Except ε (RecordSource σ ε)

/-- How values of a type are read from a source and written as JSON. -/
structure Codec (σ ε α : Type) where
  read : σ → Except ε α
  write : α → Json

namespace Codec

variable {σ ε α : Type} [Source σ ε]

/-- Texts. -/
def text : Codec σ ε String :=
  ⟨Source.text, .string⟩

/-- Flags. -/
def flag : Codec σ ε Bool :=
  ⟨Source.flag, .bool⟩

/-- Arbitrary values. -/
def json : Codec σ ε Json :=
  ⟨Source.json, id⟩

/-- Lists. -/
def list (item : Codec σ ε α) : Codec σ ε (List α) where
  read source := do (← Source.list source).traverse item.read
  write values := .array (values.map item.write)

/-- Maps with sorted keys.  Of several entries with one key the last counts. -/
def sortedMap (value : Codec σ ε α) : Codec σ ε (SortedMap α) where
  read source := do
    let entries ← (← Source.entries source).traverse fun (key, source) => do
      return (key, ← value.read source)
    return .ofEntries entries
  write map := .object (map.entries.map fun (key, x) => (key, value.write x))

/-- Values that may be absent; an absent one is written as null. -/
def nullable (value : Codec σ ε α) : Codec σ ε (Option α) where
  read source := do
    if ← Source.isAbsent source then return none
    return some (← value.read source)
  write x := .orNull (x.map value.write)

end Codec

end InfraSynth
