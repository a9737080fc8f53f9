import InfraSynth.Decode.Source

/-!
# Records

A `Record` describes a type whose values are written as JSON objects: the
fields in order, and how the type is put together from their values and taken
apart into them.  Reading and writing are both derived from this description.

## Reading

An object is read entry by entry in the order it is written.  An entry whose key
no field answers to, or whose field has been read before, is an error; fields
that no entry gave are looked at afterwards, in the order of the record.  A list
gives the values of the fields in order and may be cut short where all remaining
fields have defaults.

## Writing

Fields are written in the order of the record under their own names, and each
field decides whether its value is written at all: those that have to be given
and those with a default always are, optional ones if they are present, and
lists and maps if they are not empty.
-/

namespace InfraSynth

/-- What a field stands for if it is not given. -/
inductive Presence (α : Type)
  /-- The field has to be given. -/
  | required
  /-- The field may be left out of an object, but not cut off a list. -/
  | optional (value : α)
  /-- The field may be left out of an object and cut off a list. -/
  | defaulted (value : α)

/-- One field of a record. -/
structure Field (σ ε α : Type) where
  name : String
  /-- Other names under which the field is read. -/
  aliases : List String
  presence : Presence α
  read : σ → Except ε α
  /-- The value as it is written, or none if it is left out. -/
  write : α → Option Json

namespace Field

variable {σ ε α : Type}

/-- Whether the field is read from entries with this key. -/
def answersTo (field : Field σ ε α) (key : String) : Bool :=
  key = field.name || field.aliases.contains key

/-- The names under which the field is read, its own first. -/
def names (field : Field σ ε α) : List String :=
  field.name :: field.aliases

/-- A field that has to be given and is always written. -/
def required (name : String) (codec : Codec σ ε α) : Field σ ε α :=
  ⟨name, [], .required, codec.read, fun x => some (codec.write x)⟩

/-- A field with a default, always written. -/
def defaulted (name : String) (codec : Codec σ ε α) (value : α) : Field σ ε α :=
  ⟨name, [], .defaulted value, codec.read, fun x => some (codec.write x)⟩

variable [Source σ ε]

/-- A field that may be absent and is written only if it is present. -/
def optional (name : String) (codec : Codec σ ε α) : Field σ ε (Option α) :=
  ⟨name, [], .optional none, codec.nullable.read, fun x => x.map codec.write⟩

/-- A field that may be absent and may be cut off a list, written only if it is
present. -/
def optionalLast (name : String) (codec : Codec σ ε α) : Field σ ε (Option α) :=
  { optional name codec with presence := .defaulted none }

/-- A field that may be absent and is written as null if it is. -/
def nullable (name : String) (codec : Codec σ ε α) : Field σ ε (Option α) :=
  ⟨name, [], .optional none, codec.nullable.read, fun x => some (codec.nullable.write x)⟩

/-- A list that is empty by default and written only if it is not empty. -/
def listed (name : String) (item : Codec σ ε α) : Field σ ε (List α) :=
  ⟨name, [], .defaulted [], item.list.read,
    fun values => if values.isEmpty then none else some (item.list.write values)⟩

/-- A list that has to be given, written only if it is not empty. -/
def requiredList (name : String) (item : Codec σ ε α) : Field σ ε (List α) :=
  { listed name item with presence := .required }

/-- A map of texts that is empty by default and written only if it is not
empty. -/
def textMap (name : String) : Field σ ε TextMap :=
  ⟨name, [], .defaulted .empty, Codec.text.sortedMap.read,
    fun map => if map.isEmpty then none else some ((Codec.text : Codec σ ε String).sortedMap.write map)⟩

end Field

/-- The values of fields with the given types. -/
@[reducible]
def Row : List Type → Type
  | [] => Unit
  | α :: αs => α × Row αs

/-- The values read so far of fields with the given types. -/
@[reducible]
def Slots : List Type → Type
  | [] => Unit
  | α :: αs => Option α × Slots αs

/-- Fields with the given types. -/
inductive Fields (σ ε : Type) : List Type → Type 1
  | nil : Fields σ ε []
  | cons {α : Type} {αs : List Type} (field : Field σ ε α) (rest : Fields σ ε αs) :
      Fields σ ε (α :: αs)

namespace Fields

variable {σ ε : Type} {αs : List Type}

/-- How many fields there are. -/
def count : {αs : List Type} → Fields σ ε αs → Nat
  | _, .nil => 0
  | _, .cons _ rest => rest.count + 1

/-- All names under which fields are read, in order. -/
def names : {αs : List Type} → Fields σ ε αs → List String
  | _, .nil => []
  | _, .cons field rest => field.names ++ rest.names

/-- The own names of the fields, in order. -/
def ownNames : {αs : List Type} → Fields σ ε αs → List String
  | _, .nil => []
  | _, .cons field rest => field.name :: rest.ownNames

/-- No value has been read. -/
def emptySlots : {αs : List Type} → Fields σ ε αs → Slots αs
  | _, .nil => ()
  | _, .cons _ rest => (none, rest.emptySlots)

/-- The values as they are written. -/
def write : {αs : List Type} → Fields σ ε αs → Row αs → List (String × Json)
  | _, .nil, _ => []
  | _, .cons field rest, (value, values) =>
    match field.write value with
    | some json => (field.name, json) :: rest.write values
    | none => rest.write values

variable [Source σ ε]

/-- Read the value of an entry into the slot of its field; `known` are the
names of all fields. -/
def readEntry (known : List String) (key : String) (source : σ) :
    {αs : List Type} → Fields σ ε αs → Slots αs → Except ε (Slots αs)
  | _, .nil, _ => .error (Source.failure σ (.unknownField key known))
  | _, .cons field rest, (slot, slots) =>
    if field.answersTo key then
      match slot with
      | some _ => .error (Source.failure σ (.duplicateField field.name))
      | none => do return (some (← field.read source), slots)
    else do return (slot, ← rest.readEntry known key source slots)

/-- The values of all fields, with defaults for those that were not read. -/
def fill : {αs : List Type} → Fields σ ε αs → Slots αs → Except ε (Row αs)
  | _, .nil, _ => .ok ()
  | _, .cons field rest, (slot, slots) => do
    let value ← match slot, field.presence with
      | some value, _ => .ok value
      | none, .optional value | none, .defaulted value => .ok value
      | none, .required => .error (Source.failure σ (.missingField field.name))
    return (value, ← rest.fill slots)

/-- Read fields from entries in the order these are written. -/
def readNamed (fields : Fields σ ε αs) (entries : Listing (String × σ) ε) :
    Except ε (Row αs) := do
  let slots ← entries.parts.foldlM
    (fun slots (key, source) => fields.readEntry fields.names key source slots)
    fields.emptySlots
  match entries.failure with
  | some failure => .error failure
  | none => fields.fill slots

/-- Read fields from a list of values; `index` is the index of the first field,
and `cut` the error for a list that ends before it. -/
def readPositional (failure : Option ε) (cut : Nat → ε) (index : Nat) :
    {αs : List Type} → Fields σ ε αs → List σ → Except ε (Row αs × List σ)
  | _, .nil, rest => .ok ((), rest)
  | _, .cons field rest, [] => do
    let value ← match failure, field.presence with
      | some failure, _ => .error failure
      | none, .defaulted value => .ok value
      | none, _ => .error (cut index)
    let (values, left) ← rest.readPositional failure cut (index + 1) []
    return ((value, values), left)
  | _, .cons field rest, source :: sources => do
    let value ← field.read source
    let (values, left) ← rest.readPositional failure cut (index + 1) sources
    return ((value, values), left)

end Fields

/-- A type whose values are written as JSON objects. -/
structure Record (σ ε τ : Type) where
  /-- The name of the type in errors. -/
  name : String
  types : List Type
  fields : Fields σ ε types
  build : Row types → τ
  row : τ → Row types

namespace Record

variable {σ ε τ : Type}

/-- How many values a list for the record has. -/
def expectedLength (record : Record σ ε τ) : String :=
  let count := record.fields.count
  let noun := if count = 1 then "element" else "elements"
  s!"struct {record.name} with {count} {noun}"

/-- The entries of a value. -/
def entries (record : Record σ ε τ) (x : τ) : Entries Json :=
  record.fields.write (record.row x)

/-- A value as a JSON object. -/
def write (record : Record σ ε τ) (x : τ) : Json :=
  .object (record.entries x)

variable [Source σ ε]

/-- Read a value. -/
def read (record : Record σ ε τ) (source : σ) : Except ε τ := do
  match ← Source.record record.name record.fields.ownNames source with
  | .named entries => return record.build (← record.fields.readNamed entries)
  | .positional values =>
    let cut index := Source.failure σ (.invalidLength index record.expectedLength)
    let (row, left) ← record.fields.readPositional values.failure cut 0 values.parts
    if !left.isEmpty then .error (Source.surplus σ values.parts.length)
    else match values.failure with
      | some failure => .error failure
      | none => return record.build row

/-- The codec of a record. -/
def codec (record : Record σ ε τ) : Codec σ ε τ :=
  ⟨record.read, record.write⟩

end Record

end InfraSynth
