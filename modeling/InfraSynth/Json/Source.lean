import InfraSynth.Decode.Source
import InfraSynth.Error
import InfraSynth.Json.Reader

/-!
# Decoding JSON texts

Drafts of JSON texts as a source.  A text that goes wrong is only turned down for
that where the fault comes before anything that does not fit.
-/

namespace InfraSynth.Json

/-- The kind of value that a draft begins with. -/
def Draft.found : Draft → Found
  | .null | .broken _ => .null
  | .bool value => .flag value
  | .number value => .number value
  | .string value => .text value
  | .array .. => .list
  | .object .. => .map

/-- The error for a draft that is broken or does not fit. -/
def Draft.mismatch {α : Type} (draft : Draft) (expected : String) : Except DocumentError α :=
  match draft with
  | .broken fault => .error (.text fault)
  | draft => .error (.shape (.invalidType draft.found expected))

/-- The parts of a container and the fault after them. -/
def listing {α : Type} (parts : List α) (fault : Option Fault) : Listing α DocumentError :=
  ⟨parts, fault.map .text⟩

instance : Source Draft DocumentError where
  failure := .shape
  surplus _ := .surplus
  isAbsent
    | .null => .ok true
    | _ => .ok false
  text
    | .string value => .ok value
    | draft => draft.mismatch "a string"
  flag
    | .bool value => .ok value
    | draft => draft.mismatch "a boolean"
  json draft := draft.toJson.mapError .text
  list
    | .array items fault => .ok (listing items fault)
    | draft => draft.mismatch "a sequence"
  entries
    | .object entries fault => .ok (listing entries fault)
    | draft => draft.mismatch "a map"
  record name _
    | .object entries fault => .ok (.named (listing entries fault))
    | .array items fault => .ok (.positional (listing items fault))
    | draft => draft.mismatch s!"struct {name}"

/-- Decode the value that a text holds. -/
def decode {α : Type} (read : Draft → Except DocumentError α) (text : String) :
    Except DocumentError α := do
  let document := Document.ofText text
  let value ← read document.draft
  match document.trailing with
  | some fault => .error (.text fault)
  | none => .ok value

end InfraSynth.Json
