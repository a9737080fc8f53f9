import InfraSynth.Decode.Value
import InfraSynth.Proofs.Collection
import InfraSynth.Proofs.Outcome

/-!
# Values that read back from what is written for them

A codec is faithful to a value if reading gives the value back from its written
form.  Records are put together from fields, so faithfulness is too: a record is
faithful to a value if its names are distinct and each field either reads its
part of the value back or leaves it out because it is the default.

## Strategy

The entries of a written record are read in the order in which they were
written.  An entry whose key belongs to a later field passes the earlier ones,
so reading fills the slots one after the other (`foldlM_readEntry_write`), and
the slots of fields that were left out are filled with their defaults
(`fill_written`).
-/

namespace InfraSynth

variable {α : Type} {αs : List Type}

/-- The value reads back from what is written for it, which is not null. -/
structure Codec.Faithful (codec : JsonCodec α) (x : α) : Prop where
  read_write : codec.read (codec.write x) = .ok x
  write_ne_null : codec.write x ≠ .null

/-- The value reads back if it is written, and is the default if it is not. -/
def Field.Faithful (field : JsonField α) (x : α) : Prop :=
  match field.write x with
  | some json => field.read json = .ok x
  | none => field.presence = .optional x ∨ field.presence = .defaulted x

/-- Each field is faithful to its value. -/
inductive Fields.Faithful : {αs : List Type} → Fields Json DecodeError αs → Row αs → Prop
  | nil : Fields.Faithful .nil ()
  | cons {α : Type} {αs : List Type} {field : JsonField α} {rest : Fields Json DecodeError αs}
      {x : α} {xs : Row αs} (hfield : field.Faithful x) (hrest : rest.Faithful xs) :
      Fields.Faithful (.cons field rest) (x, xs)

/-! ## Records -/

namespace Fields

variable {fields : Fields Json DecodeError αs} {row : Row αs}

/-- The slots after the entries of a written record have been read. -/
def written : {αs : List Type} → Fields Json DecodeError αs → Row αs → Slots αs
  | _, .nil, _ => ()
  | _, .cons field rest, (x, xs) => ((field.write x).map fun _ => x, rest.written xs)

theorem fill_written (h : fields.Faithful row) : fields.fill (fields.written row) = .ok row := by
  induction h with
  | nil => rfl
  | @cons _ _ field rest x xs hfield _ ih =>
      unfold Field.Faithful at hfield
      cases hwrite : field.write x with
      | some json =>
          simp only [fill, written, hwrite, ih]
          rfl
      | none =>
          -- what is left out is the default that fills the slot
          rw [hwrite] at hfield
          rcases hfield with hfield | hfield <;>
            simp only [fill, written, hwrite, ih, hfield] <;> rfl

theorem answersTo_iff {field : JsonField α} {key : String} :
    field.answersTo key = true ↔ key ∈ field.names := by
  simp [Field.answersTo, Field.names]

/-- Fields write the same if they have the same names and write the same
values. -/
theorem write_cons_congr {β : Type} {βs : List Type} {field : JsonField α} {other : JsonField β}
    {rest : Fields Json DecodeError αs} {others : Fields Json DecodeError βs} {x : α} {y : β}
    {xs : Row αs} {ys : Row βs} (hname : field.name = other.name)
    (hwrite : field.write x = other.write y) (hrest : rest.write xs = others.write ys) :
    (Fields.cons field rest).write (x, xs) = (Fields.cons other others).write (y, ys) := by
  rw [write, write, hwrite, hname, hrest]

theorem mem_write_cons_iff {field : JsonField α} {rest : Fields Json DecodeError αs} {x : α}
    {xs : Row αs} {entry : String × Json} :
    entry ∈ (Fields.cons field rest).write (x, xs) ↔
      (entry.1 = field.name ∧ field.write x = some entry.2) ∨ entry ∈ rest.write xs := by
  rw [write]
  cases field.write x with
  | none => simp
  | some json => simp [Prod.ext_iff, eq_comm]

/-- The first field writes its value. -/
theorem mem_write_first {field : JsonField α} {rest : Fields Json DecodeError αs} {x : α}
    {xs : Row αs} {json : Json} (h : field.write x = some json) :
    (field.name, json) ∈ (Fields.cons field rest).write (x, xs) :=
  mem_write_cons_iff.mpr (Or.inl ⟨rfl, h⟩)

/-- A later field writes its value. -/
theorem mem_write_later {field : JsonField α} {rest : Fields Json DecodeError αs} {x : α}
    {xs : Row αs} {entry : String × Json} (h : entry ∈ rest.write xs) :
    entry ∈ (Fields.cons field rest).write (x, xs) :=
  mem_write_cons_iff.mpr (Or.inr h)

theorem key_mem_names_of_mem_write {entry : String × Json} (h : entry ∈ fields.write row) :
    entry.1 ∈ fields.names := by
  induction fields with
  | nil => contradiction
  | cons field rest ih =>
      rw [names, List.mem_append]
      rcases mem_write_cons_iff.mp h with ⟨hkey, -⟩ | hrest
      · exact Or.inl (hkey ▸ List.mem_cons_self ..)
      · exact Or.inr (ih hrest)

/-- Entries that do not belong to the first field fill the slots behind it. -/
private theorem foldlM_readEntry_of_not_mem {field : JsonField α}
    {rest : Fields Json DecodeError αs} (known : List String) {entries : List (String × Json)}
    (h : ∀ entry ∈ entries, entry.1 ∉ field.names) (slot : Option α) (slots : Slots αs) :
    entries.foldlM (fun slots (key, source) =>
        (Fields.cons field rest).readEntry known key source slots) (slot, slots) =
      (entries.foldlM (fun slots (key, source) => rest.readEntry known key source slots)
        slots).map fun slots => (slot, slots) := by
  induction entries generalizing slots with
  | nil => rfl
  | cons entry entries ih =>
      obtain ⟨key, source⟩ := entry
      have hkey : ¬field.answersTo key = true := by
        rw [answersTo_iff]
        exact h _ (List.mem_cons_self ..)
      simp only [List.foldlM_cons, readEntry, if_neg hkey]
      cases rest.readEntry known key source slots with
      | error e => rfl
      | ok slots => exact ih (fun entry hentry => h entry (List.mem_cons_of_mem _ hentry)) slots

/-- The entries of a written record fill its slots. -/
theorem foldlM_readEntry_write (known : List String) (hnames : fields.names.Nodup)
    (h : fields.Faithful row) :
    (fields.write row).foldlM (fun slots (key, source) => fields.readEntry known key source slots)
      fields.emptySlots = .ok (fields.written row) := by
  induction h with
  | nil => rfl
  | @cons _ _ field rest x xs hfield _ ih =>
      rw [names, List.nodup_append] at hnames
      obtain ⟨-, hrest, hdisjoint⟩ := hnames
      -- no name belongs to two fields, so the entries of the others pass the first
      have hpass : ∀ entry ∈ rest.write xs, entry.1 ∉ field.names := fun entry hentry hmem =>
        hdisjoint _ hmem _ (key_mem_names_of_mem_write hentry) rfl
      unfold Field.Faithful at hfield
      cases hwrite : field.write x with
      | none =>
          simp only [write, hwrite, emptySlots, written]
          rw [foldlM_readEntry_of_not_mem known hpass, ih hrest]
          rfl
      | some json =>
          rw [hwrite] at hfield
          have hanswers : field.answersTo field.name = true :=
            answersTo_iff.mpr (List.mem_cons_self ..)
          have hfirst : (Fields.cons field rest).readEntry known field.name json
              (none, rest.emptySlots) = .ok (some x, rest.emptySlots) := by
            rw [readEntry, if_pos hanswers, hfield]
            rfl
          simp only [write, hwrite, emptySlots, written, List.foldlM_cons, hfirst]
          exact (foldlM_readEntry_of_not_mem known hpass _ _).trans (by rw [ih hrest]; rfl)

theorem readNamed_write (hnames : fields.names.Nodup) (h : fields.Faithful row) :
    fields.readNamed (.complete (fields.write row)) = .ok row := by
  rw [readNamed, Listing.complete, foldlM_readEntry_write fields.names hnames h]
  exact fill_written h

end Fields

/-- What a field writes is less deep than the record. -/
theorem Record.depth_lt_of_mem_entries {record : JsonRecord α} {x : α} {key : String}
    {json : Json} (h : (key, json) ∈ record.entries x) : json.depth < (record.write x).depth := by
  have hle := Json.depth_le_depthEntries h
  rw [Record.write, Json.depth]
  omega

/-- A record reads back if its names are distinct and its fields read back. -/
theorem Codec.Faithful.record {record : JsonRecord α} {x : α}
    (hnames : record.fields.names.Nodup) (hbuild : record.build (record.row x) = x)
    (hfields : record.fields.Faithful (record.row x)) : record.codec.Faithful x := by
  refine ⟨?_, fun h => Json.noConfusion h⟩
  have hread : record.codec.read (record.codec.write x) =
      (record.fields.readNamed (.complete (record.fields.write (record.row x))) >>= fun row =>
        .ok (record.build row)) := rfl
  rw [hread, Fields.readNamed_write hnames hfields]
  exact congrArg Except.ok hbuild

/-! ## Codecs -/

/-- Every value of the enumeration is found by its name. -/
class Enumeration.Lawful (α : Type) [Enumeration α] : Prop where
  ofName?_name : ∀ x : α, Enumeration.ofName? (Enumeration.name x) = some x

theorem Listing.traverse_complete {β γ ε : Type} {read : β → Except ε γ} {parts : List β} :
    (Listing.complete parts).traverse read = parts.mapM read := by
  simp only [traverse, complete]
  cases parts.mapM read <;> rfl

/-- A map reads back value by value. -/
theorem Codec.read_write_sortedMap {codec : JsonCodec α} {f : α → α} {map : SortedMap α}
    (h : ∀ entry ∈ map.entries, codec.read (codec.write entry.2) = .ok (f entry.2)) :
    codec.sortedMap.read (codec.sortedMap.write map) = .ok (map.map f) := by
  have hentries : (map.entries.map fun entry => (entry.1, codec.write entry.2)).mapM
      (fun (key, source) => do return (key, ← codec.read source)) =
        .ok (map.map f).entries :=
    Outcome.mapM_map_eq_ok fun entry hentry => by
      simp only [h entry hentry]
      rfl
  have hread : codec.sortedMap.read (codec.sortedMap.write map) =
      ((Listing.complete (map.entries.map fun entry => (entry.1, codec.write entry.2))).traverse
          (fun (key, source) => do return (key, ← codec.read source)) >>= fun entries =>
        .ok (.ofEntries entries)) := rfl
  rw [hread, Listing.traverse_complete, hentries]
  exact congrArg Except.ok (SortedMap.ofEntries_entries _)

namespace Codec.Faithful

@[simp] theorem text {x : String} : (Codec.text : JsonCodec String).Faithful x :=
  ⟨rfl, Json.noConfusion⟩

@[simp] theorem flag {x : Bool} : (Codec.flag : JsonCodec Bool).Faithful x :=
  ⟨rfl, Json.noConfusion⟩

@[simp] theorem binary64 {x : Binary64} : Codec.binary64.Faithful x :=
  ⟨rfl, Json.noConfusion⟩

@[simp] theorem list {item : JsonCodec α} {xs : List α} (h : ∀ x ∈ xs, item.Faithful x) :
    item.list.Faithful xs := by
  refine ⟨?_, Json.noConfusion⟩
  have hread : item.list.read (item.list.write xs) =
      (Listing.complete (xs.map item.write)).traverse item.read := rfl
  rw [hread, Listing.traverse_complete, Outcome.mapM_map_eq_ok fun x hx => (h x hx).read_write,
    List.map_id']

@[simp] theorem textMap {map : TextMap} :
    (Codec.text : JsonCodec String).sortedMap.Faithful map := by
  refine ⟨?_, Json.noConfusion⟩
  rw [Codec.read_write_sortedMap (f := id) fun _ _ => rfl, SortedMap.map_id]

/-- What is not written as null is read as present. -/
theorem nullable_read {codec : JsonCodec α} {x : α} (h : codec.Faithful x) :
    codec.nullable.read (codec.write x) = .ok (some x) := by
  have hpresent : (Source.isAbsent (codec.write x) : Except DecodeError Bool) = .ok false :=
    congrArg Except.ok (decide_eq_false h.write_ne_null)
  simp only [Codec.nullable, hpresent, h.read_write]
  rfl

/-! Integers lie in the range of their type. -/

/-- A codec of a type whose values are integers from a range. -/
private theorem ofRange {codec : JsonCodec α} {expected : String} {low high : Int} {x : α}
    (toInt : α → Int) (ofInt : Int → α)
    (hread : ∀ json, codec.read json =
      readInteger expected low high json >>= fun value => .ok (ofInt value))
    (hwrite : codec.write x = .int (toInt x)) (hrange : low ≤ toInt x ∧ toInt x ≤ high)
    (hback : ofInt (toInt x) = x) : codec.Faithful x := by
  have hinteger : readInteger expected low high (.int (toInt x)) = .ok (toInt x) := by
    simp [readInteger, Json.int, hrange]
  refine ⟨?_, hwrite ▸ Json.noConfusion⟩
  rw [hwrite, hread, hinteger]
  exact congrArg Except.ok hback

@[simp] theorem uint8 {x : UInt8} : Codec.uint8.Faithful x := by
  have hrange : (0 : Int) ≤ x.toNat ∧ (x.toNat : Int) ≤ 255 := by
    have := x.toNat_lt
    omega
  exact ofRange (fun x : UInt8 => x.toNat) (fun value => .ofNat value.toNat) (fun _ => rfl) rfl
    hrange (by simp)

@[simp] theorem uint16 {x : UInt16} : Codec.uint16.Faithful x := by
  have hrange : (0 : Int) ≤ x.toNat ∧ (x.toNat : Int) ≤ 65535 := by
    have := x.toNat_lt
    omega
  exact ofRange (fun x : UInt16 => x.toNat) (fun value => .ofNat value.toNat) (fun _ => rfl) rfl
    hrange (by simp)

@[simp] theorem uint32 {x : UInt32} : Codec.uint32.Faithful x := by
  have hrange : (0 : Int) ≤ x.toNat ∧ (x.toNat : Int) ≤ UInt32.size - 1 := by
    have := x.toNat_lt
    simp only [UInt32.size]
    omega
  exact ofRange (fun x : UInt32 => x.toNat) (fun value => .ofNat value.toNat) (fun _ => rfl) rfl
    hrange (by simp)

@[simp] theorem uint64 {x : UInt64} : Codec.uint64.Faithful x := by
  have hrange : (0 : Int) ≤ x.toNat ∧ (x.toNat : Int) ≤ UInt64.size - 1 := by
    have := x.toNat_lt
    simp only [UInt64.size]
    omega
  exact ofRange (fun x : UInt64 => x.toNat) (fun value => .ofNat value.toNat) (fun _ => rfl) rfl
    hrange (by simp)

@[simp] theorem int32 {x : Int32} : Codec.int32.Faithful x :=
  ofRange Int32.toInt .ofInt (fun _ => rfl) rfl
    ⟨Int32.minValue_le_toInt x, Int32.toInt_le x⟩ (by simp)

@[simp] theorem named [Enumeration α] [Enumeration.Lawful α] {x : α} :
    (Codec.named : JsonCodec α).Faithful x := by
  refine ⟨?_, Json.noConfusion⟩
  have hread : (Codec.named : JsonCodec α).read (Codec.named.write x) =
      Enumeration.readName (Enumeration.name x) := rfl
  rw [hread, Enumeration.readName, Enumeration.Lawful.ofName?_name]

end Codec.Faithful

/-! ## Fields -/

namespace Field.Faithful

variable {name : String} {codec : JsonCodec α} {x : α}

/-- The names under which a field is written and read play no part. -/
@[simp] theorem names_iff {field : JsonField α} {aliases : List String} :
    ({ field with name, aliases } : JsonField α).Faithful x ↔ field.Faithful x :=
  Iff.rfl

@[simp] theorem required (h : codec.Faithful x) : (Field.required name codec).Faithful x :=
  h.read_write

@[simp] theorem defaulted {value : α} (h : codec.Faithful x) :
    (Field.defaulted name codec value).Faithful x :=
  h.read_write

@[simp] theorem optional {x : Option α} (h : ∀ y ∈ x, codec.Faithful y) :
    (Field.optional name codec).Faithful x := by
  cases x with
  | none => exact Or.inl rfl
  | some y => exact (h y rfl).nullable_read

@[simp] theorem nullable {x : Option α} (h : ∀ y ∈ x, codec.Faithful y) :
    (Field.nullable name codec).Faithful x := by
  cases x with
  | none => rfl
  | some y => exact (h y rfl).nullable_read

@[simp] theorem optionalLast {x : Option α} (h : ∀ y ∈ x, codec.Faithful y) :
    (Field.optionalLast name codec).Faithful x := by
  cases x with
  | none => exact Or.inr rfl
  | some y => exact (h y rfl).nullable_read

@[simp] theorem listed {xs : List α} (h : ∀ x ∈ xs, codec.Faithful x) :
    (Field.listed name codec).Faithful xs := by
  cases xs with
  | nil => exact Or.inr rfl
  | cons x xs => exact (Codec.Faithful.list h).read_write

/-- A list that has to be given is not written if it is empty. -/
@[simp] theorem requiredList {xs : List α} (hne : xs ≠ []) (h : ∀ x ∈ xs, codec.Faithful x) :
    (Field.requiredList name codec).Faithful xs := by
  cases xs with
  | nil => contradiction
  | cons x xs => exact (Codec.Faithful.list h).read_write

@[simp] theorem textMap {map : TextMap} : (Field.textMap name).Faithful map := by
  by_cases hempty : map.isEmpty = true
  · obtain rfl : map = .empty := SortedMap.ext (List.isEmpty_iff.mp hempty)
    exact Or.inr rfl
  · simp only [Field.Faithful, Field.textMap, hempty]
    exact Codec.Faithful.textMap.read_write

end Field.Faithful

end InfraSynth
