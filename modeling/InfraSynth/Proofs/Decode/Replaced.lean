import InfraSynth.Decode.Value

/-!
# Values that differ at one position

Two JSON values differ at a position if one has `old` there and the other one `new`,
and they are the same everywhere else, the order of entries included.  For values
that are written by records this follows from the records: if two of them differ in
one field, and what the field writes differs at one position, then so does what is
written for the records.

## Main definitions

* `Json.ReplacedAt` is the relation between the two values.
* `Field.ReplacedAt` and `Fields.ReplacedAt` lead to the field that differs.
-/

namespace InfraSynth

namespace Json

/-- A step from a value to a value inside it. -/
inductive Step
  | key (name : String)
  | index (i : Nat)

/-- The way from a value to a value inside it. -/
abbrev Position := List Step

/-- The first value has `old` at a position and the second one has `new` there;
otherwise they are the same. -/
inductive ReplacedAt (old new : Json) : Position → Json → Json → Prop
  | here : ReplacedAt old new [] old new
  | entry {position : Position} {key : String} {before after : Json} (front back : Entries Json)
      (hkey : key ∉ Entries.keys front) (h : ReplacedAt old new position before after) :
      ReplacedAt old new (.key key :: position) (.object (front ++ (key, before) :: back))
        (.object (front ++ (key, after) :: back))
  | item {position : Position} {before after : Json} (front back : List Json)
      (h : ReplacedAt old new position before after) :
      ReplacedAt old new (.index front.length :: position) (.array (front ++ before :: back))
        (.array (front ++ after :: back))

variable {old new : Json} {position : Position} {key other : String} {value : Json}

/-- An entry with another key may be put in front. -/
theorem ReplacedAt.cons_entry {entries others : Entries Json}
    (h : ReplacedAt old new (.key key :: position) (.object entries) (.object others))
    (hother : other ≠ key) :
    ReplacedAt old new (.key key :: position) (.object ((other, value) :: entries))
      (.object ((other, value) :: others)) := by
  cases h with
  | entry front back hkey h =>
      refine .entry ((other, value) :: front) back ?_ h
      rw [Entries.keys, List.map_cons, List.mem_cons, not_or]
      exact ⟨hother.symm, hkey⟩

end Json

variable {α : Type} {αs : List Type} {old new : Json} {position : Json.Position}

/-! ## Fields -/

/-- What the field writes for two values differs at a position. -/
def Field.ReplacedAt (field : JsonField α) (old new : Json) (position : Json.Position)
    (x y : α) : Prop :=
  ∃ before after, field.write x = some before ∧ field.write y = some after ∧
    Json.ReplacedAt old new position before after

theorem Codec.replacedAt_text {old new : String} :
    Json.ReplacedAt (.string old) (.string new) [] ((text : JsonCodec String).write old)
      ((text : JsonCodec String).write new) :=
  .here

theorem Codec.replacedAt_list {codec : JsonCodec α} {x y : α} (front back : List α)
    (h : Json.ReplacedAt old new position (codec.write x) (codec.write y)) :
    Json.ReplacedAt old new (.index front.length :: position)
      (codec.list.write (front ++ x :: back)) (codec.list.write (front ++ y :: back)) := by
  have hitem := Json.ReplacedAt.item (front.map codec.write) (back.map codec.write) h
  rw [List.length_map] at hitem
  simpa only [list, List.map_append, List.map_cons] using hitem

namespace Field.ReplacedAt

variable {name : String} {codec : JsonCodec α} {x y : α}

theorem required (h : Json.ReplacedAt old new position (codec.write x) (codec.write y)) :
    (Field.required name codec).ReplacedAt old new position x y :=
  ⟨_, _, rfl, rfl, h⟩

theorem defaulted {value : α}
    (h : Json.ReplacedAt old new position (codec.write x) (codec.write y)) :
    (Field.defaulted name codec value).ReplacedAt old new position x y :=
  ⟨_, _, rfl, rfl, h⟩

theorem optional (h : Json.ReplacedAt old new position (codec.write x) (codec.write y)) :
    (Field.optional name codec).ReplacedAt old new position (some x) (some y) :=
  ⟨_, _, rfl, rfl, h⟩

theorem optionalLast (h : Json.ReplacedAt old new position (codec.write x) (codec.write y)) :
    (Field.optionalLast name codec).ReplacedAt old new position (some x) (some y) :=
  ⟨_, _, rfl, rfl, h⟩

theorem listed (front back : List α)
    (h : Json.ReplacedAt old new position (codec.write x) (codec.write y)) :
    (Field.listed name codec).ReplacedAt old new (.index front.length :: position)
      (front ++ x :: back) (front ++ y :: back) := by
  refine ⟨_, _, ?_, ?_, Codec.replacedAt_list front back h⟩ <;> simp [Field.listed]

theorem requiredList (front back : List α)
    (h : Json.ReplacedAt old new position (codec.write x) (codec.write y)) :
    (Field.requiredList name codec).ReplacedAt old new (.index front.length :: position)
      (front ++ x :: back) (front ++ y :: back) := by
  refine ⟨_, _, ?_, ?_, Codec.replacedAt_list front back h⟩ <;>
    simp [Field.requiredList, Field.listed]

end Field.ReplacedAt

namespace Fields

/-- Two rows have the same values but in one field, and what that writes for them
differs at a position. -/
inductive ReplacedAt (old new : Json) :
    {αs : List Type} → Fields Json DecodeError αs → Json.Position → Row αs → Row αs → Prop
  | here {α : Type} {αs : List Type} {field : JsonField α} {rest : Fields Json DecodeError αs}
      {position : Json.Position} {x y : α} {row : Row αs}
      (h : field.ReplacedAt old new position x y) :
      ReplacedAt old new (.cons field rest) (.key field.name :: position) (x, row) (y, row)
  | there {α : Type} {αs : List Type} {field : JsonField α} {rest : Fields Json DecodeError αs}
      {key : String} {position : Json.Position} {x : α} {row other : Row αs}
      (hname : field.name ≠ key) (h : ReplacedAt old new rest (.key key :: position) row other) :
      ReplacedAt old new (.cons field rest) (.key key :: position) (x, row) (x, other)

theorem ReplacedAt.object_write {fields : Fields Json DecodeError αs} {row other : Row αs}
    (h : fields.ReplacedAt old new position row other) :
    Json.ReplacedAt old new position (.object (fields.write row))
      (.object (fields.write other)) := by
  induction h with
  | here h =>
      obtain ⟨before, after, hbefore, hafter, h⟩ := h
      rw [write, write, hbefore, hafter]
      exact .entry [] _ List.not_mem_nil h
  | @there _ _ field rest _ _ x _ _ hname _ ih =>
      rw [write, write]
      cases field.write x with
      | none => exact ih
      | some value => exact ih.cons_entry hname

end Fields

/-- What is written for two records differs where the records do. -/
theorem Record.replacedAt_write {τ : Type} {record : JsonRecord τ} {x y : τ}
    (h : record.fields.ReplacedAt old new position (record.row x) (record.row y)) :
    Json.ReplacedAt old new position (record.write x) (record.write y) :=
  h.object_write

end InfraSynth
