import InfraSynth.Collection.Entries
import InfraSynth.Number.Binary64

/-!
# JSON values

Attributes, blocks and documents are JSON values.  Objects keep their entries
in order of first insertion, and a number is either an integer or a binary64
number, which are written differently and never equal.

## Main definitions

* `Json` and `Number` are the values.
* `Json.depth` counts the containers around the innermost value.
-/

namespace InfraSynth

/-- A JSON number. -/
inductive Number
  | int (value : Int)
  | float (value : Binary64)
  deriving DecidableEq, Repr

/-- A number as a binary64 number. -/
def Number.toBinary64 : Number → Binary64
  | .int value => .ofInt value
  | .float value => value

/-- A JSON value. -/
inductive Json
  | null
  | bool (value : Bool)
  | number (value : Number)
  | string (value : String)
  | array (items : List Json)
  | object (entries : List (String × Json))
  deriving Inhabited, Repr

namespace Json

instance : Coe String Json := ⟨.string⟩
instance : Coe Bool Json := ⟨.bool⟩

/-- An integer. -/
def int (value : Int) : Json :=
  .number (.int value)

/-- A natural number. -/
def nat (value : Nat) : Json :=
  .number (.int value)

/-- A binary64 number. -/
def float (value : Binary64) : Json :=
  .number (.float value)

/-- A list of texts. -/
def strings (values : List String) : Json :=
  .array (values.map .string)

/-- A value, or null if there is none. -/
def orNull : Option Json → Json
  | some value => value
  | none => .null

/-- The text of a string. -/
def text? : Json → Option String
  | .string value => some value
  | _ => none

/-- The items of an array. -/
def items? : Json → Option (List Json)
  | .array items => some items
  | _ => none

/-- The entries of an object. -/
def entries? : Json → Option (Entries Json)
  | .object entries => some entries
  | _ => none

/-- The value of a key of an object. -/
def get? (value : Json) (key : String) : Option Json :=
  value.entries?.bind (Entries.get? · key)

/-! ## Equality -/

mutual

/-- Whether two values are equal. -/
def same : Json → Json → Bool
  | .null, .null => true
  | .bool a, .bool b => a == b
  | .number a, .number b => a == b
  | .string a, .string b => a == b
  | .array a, .array b => sameItems a b
  | .object a, .object b => sameEntries a b
  | _, _ => false

/-- Whether two lists of items are equal. -/
def sameItems : List Json → List Json → Bool
  | [], [] => true
  | a :: as, b :: bs => same a b && sameItems as bs
  | _, _ => false

/-- Whether two lists of entries are equal. -/
def sameEntries : List (String × Json) → List (String × Json) → Bool
  | [], [] => true
  | (k, a) :: as, (l, b) :: bs => k == l && same a b && sameEntries as bs
  | _, _ => false

end

mutual

theorem same_iff : ∀ {a b : Json}, same a b = true ↔ a = b
  | .null, b => by cases b <;> simp [same]
  | .bool _, b => by cases b <;> simp [same]
  | .number _, b => by cases b <;> simp [same]
  | .string _, b => by cases b <;> simp [same]
  | .array _, b => by cases b <;> simp [same, sameItems_iff]
  | .object _, b => by cases b <;> simp [same, sameEntries_iff]

theorem sameItems_iff : ∀ {a b : List Json}, sameItems a b = true ↔ a = b
  | [], b => by cases b <;> simp [sameItems]
  | _ :: _, b => by cases b <;> simp [sameItems, same_iff, sameItems_iff]

theorem sameEntries_iff : ∀ {a b : List (String × Json)}, sameEntries a b = true ↔ a = b
  | [], b => by cases b <;> simp [sameEntries]
  | (_, _) :: _, [] => by simp [sameEntries]
  | (_, _) :: _, (_, _) :: _ => by
    simp [sameEntries, same_iff, sameEntries_iff, and_assoc]

end

instance : DecidableEq Json := fun a b =>
  decidable_of_iff (same a b = true) same_iff

/-! ## Depth -/

mutual

/-- How many containers surround the innermost value. -/
def depth : Json → Nat
  | .array items => depthItems items + 1
  | .object entries => depthEntries entries + 1
  | _ => 0

/-- The greatest depth of the items. -/
def depthItems : List Json → Nat
  | [] => 0
  | item :: rest => max (depth item) (depthItems rest)

/-- The greatest depth of the values. -/
def depthEntries : List (String × Json) → Nat
  | [] => 0
  | (_, value) :: rest => max (depth value) (depthEntries rest)

end

theorem depth_le_depthItems {item : Json} {items : List Json} (h : item ∈ items) :
    depth item ≤ depthItems items := by
  induction items with
  | nil => cases h
  | cons first rest ih =>
    simp only [depthItems]
    rcases List.mem_cons.1 h with rfl | h
    · exact Nat.le_max_left ..
    · exact Nat.le_trans (ih h) (Nat.le_max_right ..)

theorem depth_le_depthEntries {key : String} {value : Json} {entries : Entries Json}
    (h : (key, value) ∈ entries) : depth value ≤ depthEntries entries := by
  induction entries with
  | nil => cases h
  | cons first rest ih =>
    obtain ⟨k, v⟩ := first
    simp only [depthEntries]
    rcases List.mem_cons.1 h with heq | h
    · cases heq; exact Nat.le_max_left ..
    · exact Nat.le_trans (ih h) (Nat.le_max_right ..)

end Json

end InfraSynth
