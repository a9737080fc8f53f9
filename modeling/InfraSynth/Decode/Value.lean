import InfraSynth.Decode.Record

/-!
# Decoding JSON values

JSON values as a source, and the codecs of the scalars that only attributes
have: integers of fixed width, binary64 numbers and enumerations.
-/

namespace InfraSynth

instance : Source Json DecodeError where
  failure := id
  surplus count := .invalidLength count "fewer elements in array"
  isAbsent value := .ok (value = .null)
  text
    | .string value => .ok value
    | value => .error (.mismatch value "a string")
  flag
    | .bool value => .ok value
    | value => .error (.mismatch value "a boolean")
  json := .ok
  list
    | .array items => .ok (.complete items)
    | value => .error (.mismatch value "a sequence")
  entries
    | .object entries => .ok (.complete entries)
    | value => .error (.mismatch value "a map")
  record name _
    | .object entries => .ok (.named (.complete entries))
    | .array items => .ok (.positional (.complete items))
    | value => .error (.mismatch value s!"struct {name}")

/-- How values of a type are read from and written as JSON values. -/
abbrev JsonCodec (α : Type) := Codec Json DecodeError α

/-- A field of attributes. -/
abbrev JsonField (α : Type) := Field Json DecodeError α

/-- A record of attributes. -/
abbrev JsonRecord (τ : Type) := Record Json DecodeError τ

namespace Codec

/-- Read an integer that lies in a range. -/
def readInteger (expected : String) (low high : Int) : Json → Except DecodeError Int
  | .number (.int value) =>
    if low ≤ value ∧ value ≤ high then .ok value
    else .error (.invalidValue (.number (.int value)) expected)
  | value => .error (.mismatch value expected)

/-- Unsigned integers of 8 bits. -/
def uint8 : JsonCodec UInt8 where
  read json := do return .ofNat (← readInteger "u8" 0 255 json).toNat
  write x := .nat x.toNat

/-- Unsigned integers of 16 bits. -/
def uint16 : JsonCodec UInt16 where
  read json := do return .ofNat (← readInteger "u16" 0 65535 json).toNat
  write x := .nat x.toNat

/-- Unsigned integers of 32 bits. -/
def uint32 : JsonCodec UInt32 where
  read json := do return .ofNat (← readInteger "u32" 0 (UInt32.size - 1) json).toNat
  write x := .nat x.toNat

/-- Unsigned integers of 64 bits. -/
def uint64 : JsonCodec UInt64 where
  read json := do return .ofNat (← readInteger "u64" 0 (UInt64.size - 1) json).toNat
  write x := .nat x.toNat

/-- Signed integers of 32 bits. -/
def int32 : JsonCodec Int32 where
  read json := do return .ofInt (← readInteger "i32" Int32.minValue.toInt Int32.maxValue.toInt json)
  write x := .int x.toInt

/-- Binary64 numbers; integers are converted. -/
def binary64 : JsonCodec Binary64 where
  read
    | .number value => .ok value.toBinary64
    | value => .error (.mismatch value "f64")
  write := .float

end Codec

/-- A type with finitely many values, each with a name. -/
class Enumeration (α : Type) where
  all : List α
  name : α → String

namespace Enumeration

variable {α : Type} [Enumeration α]

/-- The value with a name. -/
def ofName? (name : String) : Option α :=
  (Enumeration.all : List α).find? fun x => Enumeration.name x = name

/-- All names in order. -/
def names (α : Type) [Enumeration α] : List String :=
  (Enumeration.all : List α).map Enumeration.name

/-- Read the value with a name. -/
def readName (name : String) : Except DecodeError α :=
  match ofName? name with
  | some x => .ok x
  | none => .error (.unknownVariant name (names α))

/-- Read a value, given by its name or as the only key of an object whose value
is null. -/
def read : Json → Except DecodeError α
  | .string name => readName name
  | .object [(name, value)] => do
    let x ← readName name
    if value = .null then return x else .error (.mismatch value "unit")
  | .object _ => .error (.invalidValue .map "map with a single key")
  | value => .error (.mismatch value "string or map")

end Enumeration

/-- Values that are written by name. -/
def Codec.named {α : Type} [Enumeration α] : JsonCodec α :=
  ⟨Enumeration.read, fun x => .string (Enumeration.name x)⟩

end InfraSynth
