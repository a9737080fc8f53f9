import InfraSynth.Json.Basic
import InfraSynth.Json.Fault

/-!
# Drafts: JSON texts up to their first fault

A consumer that expects a value of a certain shape may turn a text down before
the text goes wrong, and which of the two happens first decides what is
reported.  A `Draft` therefore keeps what was read in the order it was read:
repeated keys as they stand, and the fault at the place where reading stopped.

## Main definitions

* `Draft.fault?` is the fault, if reading stopped.
* `Draft.toJson` is the value, if it did not.  Of several entries with one key
  the last one counts, at the place of the first.
-/

namespace InfraSynth.Json

/-- What was read of a value until it was complete or a fault was found. -/
inductive Draft
  | null
  | bool (value : Bool)
  | number (value : Number)
  | string (value : String)
  /-- The items read, and the fault if one was found between items. -/
  | array (items : List Draft) (fault : Option Fault)
  /-- The entries read, and the fault if one was found before the key of the
  next entry was complete. -/
  | object (entries : List (String × Draft)) (fault : Option Fault)
  | broken (fault : Fault)
  deriving Inhabited

namespace Draft

mutual

/-- The value, if it is complete. -/
def toJson : Draft → Except Fault Json
  | .null => .ok .null
  | .bool value => .ok (.bool value)
  | .number value => .ok (.number value)
  | .string value => .ok (.string value)
  | .array items fault => do
    let items ← toItems items
    match fault with
    | some fault => .error fault
    | none => .ok (.array items)
  | .object entries fault => do
    let entries ← toEntries entries []
    match fault with
    | some fault => .error fault
    | none => .ok (.object entries)
  | .broken fault => .error fault

/-- The items, if they are complete. -/
def toItems : List Draft → Except Fault (List Json)
  | [] => .ok []
  | item :: rest => do
    let item ← toJson item
    let rest ← toItems rest
    return item :: rest

/-- The entries after those already collected, if they are complete. -/
def toEntries : List (String × Draft) → Entries Json → Except Fault (Entries Json)
  | [], entries => .ok entries
  | (key, value) :: rest, entries => do
    let value ← toJson value
    toEntries rest (Entries.insert entries key value)

end

/-- The fault at which reading stopped. -/
def fault? (draft : Draft) : Option Fault :=
  match draft.toJson with
  | .ok _ => none
  | .error fault => some fault

end Draft

end InfraSynth.Json
