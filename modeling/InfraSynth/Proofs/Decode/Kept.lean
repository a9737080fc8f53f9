import InfraSynth.Proofs.Decode.Reading
import InfraSynth.Proofs.Decode.Supply

/-!
# What was given reappears in what is written

A value that is read and written again may come out with more entries than it
had, because defaults are written too, and in another order.  But nothing that
was given is lost: every entry reappears under its name with its value, at every
depth, unless it stands for nothing.

What "the same value" means depends on what a field holds: a number may be
converted, a document comes out as a text, and a map comes out sorted.  A
`Schema` says which fields hold such values, `Schema.Given` how they are
expected to be given, and `Schema.Kept` what has to come out.

## Strategy

An entry that was read is in the slot of the field that answers to its key, and
later entries leave the slot alone, because a field that is given twice is an
error (`Fields.holds_of_foldlM`).  So every entry was read by its field into the
row that is written (`Fields.readsRow_of_readNamed`), and a record keeps what was
given if each of its fields does (`Codec.Keeps.record`).
-/

namespace InfraSynth

/-- What a field holds. -/
inductive Shape (S : Type)
  /-- A text, a number, a flag or a list of these, which comes out as it was
  given. -/
  | plain
  /-- One of several values that have names. -/
  | choice
  /-- A binary64 number, which may be given as an integer. -/
  | binary64
  /-- A JSON document, which may be given as a text and comes out as one. -/
  | document
  /-- Texts by name. -/
  | textMap
  | struct (s : S)
  | list (s : S)
  deriving DecidableEq

/-- What the fields of several structures hold. -/
structure Schema (S : Type) where
  shape : S → String → Shape S
  /-- The name under which a field comes out, given one under which it may be
  given. -/
  name : S → String → String := fun _ name => name

/-- The document that a value stands for. -/
inductive Json.StandsFor : Json → Json → Prop
  | value (entries : Entries Json) : StandsFor (.object entries) (.object entries)
  | text {text : String} {document : Json} (h : Json.parse text = .ok document) :
      StandsFor (.string text) document

/-- What stands for nothing: null, and lists and maps without entries. -/
def Shape.Vacant {S : Type} (shape : Shape S) (json : Json) : Prop :=
  json = .null ∨ json = .array [] ∨ (shape = .textMap ∧ json = .object [])

namespace Schema

variable {S : Type}

/-- Structures are given as objects and choices as texts. -/
inductive Given (schema : Schema S) : Shape S → Json → Prop
  | null (shape : Shape S) : Given schema shape .null
  | plain (json : Json) : Given schema .plain json
  | choice (name : String) : Given schema .choice (.string name)
  | binary64 (json : Json) : Given schema .binary64 json
  | document (json : Json) : Given schema .document json
  | textMap (json : Json) : Given schema .textMap json
  | struct {s : S} {entries : Entries Json}
      (h : ∀ entry ∈ entries, Given schema (schema.shape s (schema.name s entry.1)) entry.2) :
      Given schema (.struct s) (.object entries)
  | list {s : S} {items : List Json} (h : ∀ item ∈ items, Given schema (.struct s) item) :
      Given schema (.list s) (.array items)

mutual

/-- What was given reappears in what is written. -/
inductive Kept (schema : Schema S) : Shape S → Json → Json → Prop
  | plain (json : Json) : Kept schema .plain json json
  | choice (name : String) : Kept schema .choice (.string name) (.string name)
  | binary64 (number : Number) :
      Kept schema .binary64 (.number number) (.float number.toBinary64)
  /-- The text that is written holds the document, if that can be read from a
  text at all. -/
  | document {given document : Json} {text : String} (hgiven : given.StandsFor document)
      (hwritten : document.depth ≤ Json.maxNesting → document.NumbersReadBack →
        Json.parse text = .ok document) :
      Kept schema .document given (.string text)
  | textMap {given written : Entries Json}
      (h : ∀ entry ∈ given, Entries.get? written entry.1 = some entry.2) :
      Kept schema .textMap (.object given) (.object written)
  | struct {s : S} {given written : Entries Json}
      (h : ∀ entry ∈ given, EntryKept schema s written entry.1 entry.2) :
      Kept schema (.struct s) (.object given) (.object written)
  | list {s : S} {given written : List Json} (hlength : given.length = written.length)
      (h : ∀ pair ∈ given.zip written, Kept schema (.struct s) pair.1 pair.2) :
      Kept schema (.list s) (.array given) (.array written)

/-- An entry of a structure reappears under the name of its field. -/
inductive EntryKept (schema : Schema S) : S → Entries Json → String → Json → Prop
  | omitted {s : S} {written : Entries Json} {key : String} {json : Json}
      (hwritten : Entries.get? written (schema.name s key) = none)
      (hvacant : (schema.shape s (schema.name s key)).Vacant json) :
      EntryKept schema s written key json
  | written {s : S} {written : Entries Json} {key : String} {json out : Json}
      (hwritten : Entries.get? written (schema.name s key) = some out)
      (hkept : Kept schema (schema.shape s (schema.name s key)) json out) :
      EntryKept schema s written key json

end

/-- What was given reappears if something is written, and stands for nothing if
nothing is. -/
def Survives (schema : Schema S) (shape : Shape S) (given : Json) : Option Json → Prop
  | some written => schema.Kept shape given written
  | none => shape.Vacant given

end Schema

variable {S : Type} {schema : Schema S} {α : Type} {αs : List Type}

/-! ## Entries and fields -/

namespace Fields

variable {fields : Fields Json DecodeError αs} {key : String} {json : Json}

/-- The slot of the field that answers to a key holds what the field reads from
a value. -/
def Holds (key : String) (json : Json) :
    {αs : List Type} → Fields Json DecodeError αs → Slots αs → Prop
  | _, .nil, _ => False
  | _, .cons field rest, (slot, slots) =>
    if field.answersTo key = true then ∃ x, slot = some x ∧ field.read json = .ok x
    else rest.Holds key json slots

/-- The field that answers to a key reads its part of a row from a value. -/
def ReadsRow (key : String) (json : Json) :
    {αs : List Type} → Fields Json DecodeError αs → Row αs → Prop
  | _, .nil, _ => False
  | _, .cons field rest, (x, xs) =>
    if field.answersTo key = true then field.read json = .ok x else rest.ReadsRow key json xs

/-- An entry goes to the slot of its field. -/
theorem holds_readEntry {known : List String} {slots read : Slots αs}
    (h : fields.readEntry known key json slots = .ok read) : fields.Holds key json read := by
  induction fields with
  | nil => contradiction
  | cons field rest ih =>
      obtain ⟨slot, slots⟩ := slots
      by_cases hkey : field.answersTo key = true
      · cases slot with
        | some x => simp [readEntry, hkey] at h
        | none =>
            rw [readEntry, if_pos hkey] at h
            obtain ⟨x, hx, h⟩ := Outcome.bind_eq_ok_iff.mp h
            cases h
            rw [Holds, if_pos hkey]
            exact ⟨x, rfl, hx⟩
      · simp only [readEntry, if_neg hkey] at h
        obtain ⟨others, hothers, h⟩ := Outcome.bind_eq_ok_iff.mp h
        cases h
        rw [Holds, if_neg hkey]
        exact ih hothers

/-- An entry does not touch a slot that is filled. -/
theorem Holds.readEntry {known : List String} {slots read : Slots αs} {other : String}
    {value : Json} (hslots : fields.Holds key json slots)
    (h : fields.readEntry known other value slots = .ok read) : fields.Holds key json read := by
  induction fields with
  | nil => contradiction
  | cons field rest ih =>
      obtain ⟨slot, slots⟩ := slots
      rw [Holds] at hslots
      by_cases hother : field.answersTo other = true
      · cases slot with
        | some x => simp [Fields.readEntry, hother] at h
        | none =>
            rw [Fields.readEntry, if_pos hother] at h
            obtain ⟨x, hx, h⟩ := Outcome.bind_eq_ok_iff.mp h
            cases h
            -- the slot was empty, so it is not the one of the key
            by_cases hkey : field.answersTo key = true
            · rw [if_pos hkey] at hslots
              obtain ⟨_, hsome, -⟩ := hslots
              cases hsome
            · rw [Holds, if_neg hkey]
              rwa [if_neg hkey] at hslots
      · simp only [Fields.readEntry, if_neg hother] at h
        obtain ⟨others, hothers, h⟩ := Outcome.bind_eq_ok_iff.mp h
        cases h
        rw [Holds]
        split
        · rwa [if_pos ‹_›] at hslots
        · rw [if_neg ‹_›] at hslots
          exact ih hslots hothers

/-- Every entry that was read is held by its field. -/
theorem holds_of_foldlM {known : List String} {entries : Entries Json} {slots read : Slots αs}
    (h : entries.foldlM (fun slots (key, source) => fields.readEntry known key source slots)
      slots = .ok read) (hentry : (key, json) ∈ entries) : fields.Holds key json read := by
  induction entries generalizing slots with
  | nil => contradiction
  | cons first rest ih =>
      rw [List.foldlM_cons] at h
      obtain ⟨next, hfirst, hrest⟩ := Outcome.bind_eq_ok_iff.mp h
      rcases List.mem_cons.mp hentry with rfl | hentry
      · -- the first entry fills its slot, and the others leave it
        exact Outcome.foldlM_preserves (fun _ _ _ _ hholds hstep => hholds.readEntry hstep)
          (holds_readEntry hfirst) hrest
      · exact ih hrest hentry

/-- What a slot holds is what the row has. -/
theorem Holds.readsRow {slots : Slots αs} {row : Row αs} (h : fields.Holds key json slots)
    (hfill : fields.fill slots = .ok row) : fields.ReadsRow key json row := by
  induction fields with
  | nil => contradiction
  | cons field rest ih =>
      obtain ⟨slot, slots⟩ := slots
      obtain ⟨x, xs⟩ := row
      obtain ⟨-, hrest⟩ := fill_cons_eq_ok hfill
      rw [Holds] at h
      rw [ReadsRow]
      split
      · rw [if_pos ‹_›] at h
        obtain ⟨y, rfl, hread⟩ := h
        obtain ⟨_, hy, hfill⟩ := Outcome.bind_eq_ok_iff.mp hfill
        obtain ⟨_, -, hfill⟩ := Outcome.bind_eq_ok_iff.mp hfill
        cases hy
        cases hfill
        exact hread
      · rw [if_neg ‹_›] at h
        exact ih h hrest

theorem readsRow_of_readNamed {entries : Entries Json} {row : Row αs}
    (h : fields.readNamed (.complete entries) = .ok row) (hentry : (key, json) ∈ entries) :
    fields.ReadsRow key json row := by
  obtain ⟨slots, hread, hfill⟩ := Outcome.bind_eq_ok_iff.mp h
  exact (holds_of_foldlM hread hentry).readsRow hfill

end Fields

/-- What the codec reads from a value of the shape reappears in what it writes. -/
def Codec.Keeps (codec : JsonCodec α) (schema : Schema S) (shape : Shape S) : Prop :=
  ∀ (json : Json) (x : α), json.DistinctKeys → schema.Given shape json →
    codec.read json = .ok x → schema.Kept shape json (codec.write x)

/-- What the field reads from a value of the shape survives in what it writes. -/
def Field.Keeps (field : JsonField α) (schema : Schema S) (shape : Shape S) : Prop :=
  ∀ (json : Json) (x : α), json.DistinctKeys → schema.Given shape json →
    field.read json = .ok x → schema.Survives shape json (field.write x)

namespace Fields

/-- Each field keeps the values of the shape that it has in the structure. -/
inductive Keeps (schema : Schema S) (s : S) :
    {αs : List Type} → Fields Json DecodeError αs → Prop
  | nil : Keeps schema s .nil
  | cons {α : Type} {αs : List Type} {field : JsonField α} {rest : Fields Json DecodeError αs}
      (hfield : field.Keeps schema (schema.shape s field.name)) (hrest : Keeps schema s rest) :
      Keeps schema s (.cons field rest)

/-- The names under which fields are given, and the name of the field for each. -/
def spellings : {αs : List Type} → Fields Json DecodeError αs → List (String × String)
  | _, .nil => []
  | _, .cons field rest => (field.names.map fun name => (name, field.name)) ++ rest.spellings

/-- The names of the fields are distinct, and the schema gives them to the same fields. -/
abbrev Matches (fields : Fields Json DecodeError αs) (schema : Schema S) (s : S) : Prop :=
  fields.names.Nodup ∧ ∀ spelling ∈ fields.spellings, schema.name s spelling.1 = spelling.2

variable {fields : Fields Json DecodeError αs} {row : Row αs} {key : String} {json : Json} {s : S}

theorem get?_write_of_not_mem (h : key ∉ fields.names) :
    Entries.get? (fields.write row) key = none := by
  rw [Entries.get?_eq_none_iff, Entries.keys, List.mem_map]
  rintro ⟨entry, hentry, rfl⟩
  exact h (key_mem_names_of_mem_write hentry)

theorem ownName_mem_names {name : String} (h : name ∈ fields.ownNames) : name ∈ fields.names := by
  induction fields with
  | nil => contradiction
  | cons field rest ih =>
      rw [names, List.mem_append]
      rcases List.mem_cons.mp h with rfl | h
      · exact .inl (List.mem_cons_self ..)
      · exact .inr (ih h)

theorem get?_write_first {field : JsonField α} {rest : Fields Json DecodeError αs} {x : α}
    {xs : Row αs} (h : field.name ∉ rest.names) :
    Entries.get? ((Fields.cons field rest).write (x, xs)) field.name = field.write x := by
  rw [write]
  cases field.write x with
  | some out => simp [Entries.get?]
  | none => exact get?_write_of_not_mem h

theorem get?_write_later {field : JsonField α} {rest : Fields Json DecodeError αs} {x : α}
    {xs : Row αs} {name : String} (h : field.name ≠ name) :
    Entries.get? ((Fields.cons field rest).write (x, xs)) name =
      Entries.get? (rest.write xs) name := by
  rw [write]
  cases field.write x with
  | some out => simp [Entries.get?, h]
  | none => rfl

/-- An entry that was read into a row survives under the name of its field. -/
theorem exists_survives (hnames : fields.names.Nodup) (hkeeps : fields.Keeps schema s)
    (hread : fields.ReadsRow key json row) (hkeys : json.DistinctKeys) :
    ∃ name ∈ fields.ownNames, (key, name) ∈ fields.spellings ∧
      (schema.Given (schema.shape s name) json →
        schema.Survives (schema.shape s name) json (Entries.get? (fields.write row) name)) := by
  induction hkeeps with
  | nil => contradiction
  | @cons _ _ field rest hfield _ ih =>
      obtain ⟨x, xs⟩ := row
      rw [names, List.nodup_append] at hnames
      obtain ⟨-, hrest, hdisjoint⟩ := hnames
      have hfirst : field.name ∉ rest.names := fun hmem =>
        hdisjoint _ (List.mem_cons_self ..) _ hmem rfl
      rw [ReadsRow] at hread
      by_cases hkey : field.answersTo key = true
      · -- the first field reads the entry and writes it under its own name
        rw [if_pos hkey] at hread
        refine ⟨field.name, List.mem_cons_self .., ?_, fun hgiven => ?_⟩
        · exact List.mem_append_left _ (List.mem_map.mpr ⟨key, answersTo_iff.mp hkey, rfl⟩)
        · rw [get?_write_first hfirst]
          exact hfield _ _ hkeys hgiven hread
      · rw [if_neg hkey] at hread
        obtain ⟨name, hname, hspelling, hkept⟩ := ih hrest hread
        refine ⟨name, List.mem_cons_of_mem _ hname, List.mem_append_right _ hspelling, ?_⟩
        have hne : field.name ≠ name := by
          rintro rfl
          exact hfirst (ownName_mem_names hname)
        rwa [get?_write_later hne]

end Fields

/-- A record keeps what was given if each of its fields does. -/
theorem Codec.Keeps.record {record : JsonRecord α} {s : S}
    (hmatches : record.fields.Matches schema s)
    (hbuild : ∀ row, record.row (record.build row) = row)
    (hfields : record.fields.Keeps schema s) : record.codec.Keeps schema (.struct s) := by
  intro json x hkeys hgiven hread
  obtain ⟨hnames, hspellings⟩ := hmatches
  cases hgiven with
  | null => cases hread
  | @struct _ entries hgiven =>
      obtain ⟨row, hrow, h⟩ := Outcome.bind_eq_ok_iff.mp
        (show (record.fields.readNamed (.complete entries) >>= fun row =>
          .ok (record.build row)) = .ok x from hread)
      cases h
      show schema.Kept _ _ (.object (record.fields.write (record.row (record.build row))))
      rw [hbuild]
      refine .struct fun entry hentry => ?_
      obtain ⟨name, -, hspelling, hkept⟩ := Fields.exists_survives hnames hfields
        (Fields.readsRow_of_readNamed hrow hentry) (hkeys.entry hentry)
      obtain rfl : schema.name s entry.1 = name := hspellings _ hspelling
      have hout := hkept (hgiven entry hentry)
      cases hwritten : Entries.get? (record.fields.write row) (schema.name s entry.1) with
      | some out =>
          rw [hwritten] at hout
          exact .written hwritten hout
      | none =>
          rw [hwritten] at hout
          exact .omitted hwritten hout

/-! ## Codecs -/

/-- What the codec reads it writes as it was. -/
def Codec.Exact (codec : JsonCodec α) : Prop :=
  ∀ {json : Json} {x : α}, codec.read json = .ok x → codec.write x = json

namespace Codec

theorem exact_json : (Codec.json : JsonCodec Json).Exact :=
  fun h => Except.ok.inj h.symm

theorem exact_text : (Codec.text : JsonCodec String).Exact :=
  fun h => (readJson_text_eq_ok_iff.mp h).symm

theorem exact_flag : (Codec.flag : JsonCodec Bool).Exact :=
  fun h => (readJson_flag_eq_ok_iff.mp h).symm

/-- An integer that was read lies in its range. -/
theorem eq_of_readInteger {expected : String} {low high value : Int} {json : Json}
    (h : readInteger expected low high json = .ok value) :
    json = .int value ∧ low ≤ value ∧ value ≤ high := by
  cases json with
  | number number =>
      cases number with
      | int found =>
          rw [readInteger] at h
          split at h
          · cases h
            exact ⟨rfl, ‹_›⟩
          · cases h
      | float _ => cases h
  | null | bool _ | string _ | array _ | object _ => cases h

/-- A codec of a type whose values are integers from a range. -/
private theorem exact_ofRange {codec : JsonCodec α} {expected : String} {low high : Int}
    (toInt : α → Int) (ofInt : Int → α)
    (hread : ∀ json, codec.read json =
      readInteger expected low high json >>= fun value => .ok (ofInt value))
    (hwrite : ∀ x, codec.write x = .int (toInt x))
    (hback : ∀ value, low ≤ value → value ≤ high → toInt (ofInt value) = value) :
    codec.Exact := by
  intro json x h
  rw [hread] at h
  obtain ⟨value, hvalue, h⟩ := Outcome.bind_eq_ok_iff.mp h
  cases h
  obtain ⟨rfl, hlow, hhigh⟩ := eq_of_readInteger hvalue
  rw [hwrite, hback value hlow hhigh]

/-- An integer that is not negative and below a bound is a natural below it. -/
private theorem toNat_lt (bound : Nat) {value : Int} (hlow : 0 ≤ value)
    (hhigh : value ≤ bound - 1) : value.toNat < bound ∧ (value.toNat : Int) = value := by
  omega

theorem exact_uint8 : Codec.uint8.Exact := by
  refine exact_ofRange (fun x : UInt8 => x.toNat) (fun value => .ofNat value.toNat)
    (fun _ => rfl) (fun _ => rfl) fun value hlow hhigh => ?_
  obtain ⟨hlt, heq⟩ := toNat_lt UInt8.size hlow hhigh
  rw [UInt8.toNat_ofNat_of_lt' hlt, heq]

theorem exact_uint16 : Codec.uint16.Exact := by
  refine exact_ofRange (fun x : UInt16 => x.toNat) (fun value => .ofNat value.toNat)
    (fun _ => rfl) (fun _ => rfl) fun value hlow hhigh => ?_
  obtain ⟨hlt, heq⟩ := toNat_lt UInt16.size hlow hhigh
  rw [UInt16.toNat_ofNat_of_lt' hlt, heq]

theorem exact_uint32 : Codec.uint32.Exact := by
  refine exact_ofRange (fun x : UInt32 => x.toNat) (fun value => .ofNat value.toNat)
    (fun _ => rfl) (fun _ => rfl) fun value hlow hhigh => ?_
  obtain ⟨hlt, heq⟩ := toNat_lt UInt32.size hlow hhigh
  rw [UInt32.toNat_ofNat_of_lt' hlt, heq]

theorem exact_uint64 : Codec.uint64.Exact := by
  refine exact_ofRange (fun x : UInt64 => x.toNat) (fun value => .ofNat value.toNat)
    (fun _ => rfl) (fun _ => rfl) fun value hlow hhigh => ?_
  obtain ⟨hlt, heq⟩ := toNat_lt UInt64.size hlow hhigh
  rw [UInt64.toNat_ofNat_of_lt' hlt, heq]

theorem exact_int32 : Codec.int32.Exact := by
  refine exact_ofRange Int32.toInt Int32.ofInt (fun _ => rfl) (fun _ => rfl)
    fun value hlow hhigh => ?_
  exact Int32.toInt_ofInt_of_le hlow (Int.lt_of_le_of_lt hhigh (by decide))

theorem exact_list {item : JsonCodec α} (h : item.Exact) : item.list.Exact := by
  intro json xs hread
  obtain ⟨items, rfl, hitems⟩ := exists_of_read_list hread
  exact congrArg Json.array (Outcome.map_eq_of_mapM_eq_ok h hitems)

end Codec

namespace Codec.Keeps

theorem plain {codec : JsonCodec α} (h : codec.Exact) : codec.Keeps schema .plain := by
  intro json x _ _ hread
  rw [h hread]
  exact .plain json

@[simp] theorem text : (Codec.text : JsonCodec String).Keeps schema .plain := plain exact_text
@[simp] theorem flag : (Codec.flag : JsonCodec Bool).Keeps schema .plain := plain exact_flag
@[simp] theorem uint8 : Codec.uint8.Keeps schema .plain := plain exact_uint8
@[simp] theorem uint16 : Codec.uint16.Keeps schema .plain := plain exact_uint16
@[simp] theorem uint32 : Codec.uint32.Keeps schema .plain := plain exact_uint32
@[simp] theorem uint64 : Codec.uint64.Keeps schema .plain := plain exact_uint64
@[simp] theorem int32 : Codec.int32.Keeps schema .plain := plain exact_int32

@[simp] theorem texts : (Codec.text : JsonCodec String).list.Keeps schema .plain :=
  plain (exact_list exact_text)

@[simp] theorem choice [Enumeration α] : (Codec.named : JsonCodec α).Keeps schema .choice := by
  intro json x _ hgiven hread
  cases hgiven with
  | null => cases hread
  | choice name =>
      have hread : Enumeration.readName name = .ok x := hread
      rw [Enumeration.readName] at hread
      split at hread
      · cases hread
        have hname : Enumeration.name x = name :=
          of_decide_eq_true (List.find?_some (p := fun x => Enumeration.name x = name) ‹_›)
        rw [← hname]
        exact .choice _
      · cases hread

@[simp] theorem binary64 : Codec.binary64.Keeps schema .binary64 := by
  intro json x _ _ hread
  cases json with
  | number number =>
      cases hread
      exact .binary64 number
  | null | bool _ | string _ | array _ | object _ => cases hread

@[simp] theorem textMap : (Codec.text : JsonCodec String).sortedMap.Keeps schema .textMap := by
  intro json map hkeys _ hread
  cases json with
  | object given =>
      obtain ⟨listing, hlisting, hread⟩ := Outcome.bind_eq_ok_iff.mp hread
      obtain ⟨entries, hentries, hmap⟩ := Outcome.bind_eq_ok_iff.mp hread
      cases hlisting
      cases hmap
      rw [Listing.traverse_complete] at hentries
      -- every entry was a text, so all of them are found again as they were given
      have hgiven : entries.map (fun entry => (entry.1, Json.string entry.2)) = given := by
        refine Outcome.map_eq_of_mapM_eq_ok ?_ hentries
        rintro ⟨key, source⟩ value hvalue
        obtain ⟨text, htext, hvalue⟩ := Outcome.bind_eq_ok_iff.mp hvalue
        cases hvalue
        exact Prod.ext rfl (exact_text htext)
      have hnodup : (Entries.keys entries).Nodup := by
        rw [← Entries.keys_map Json.string, hgiven]
        exact hkeys.nodup
      refine .textMap fun entry hentry => ?_
      rw [← hgiven] at hentry
      obtain ⟨⟨key, text⟩, hmem, rfl⟩ := List.mem_map.mp hentry
      have hfound : (SortedMap.ofEntries entries).get? key = some text := by
        rw [SortedMap.ofEntries, SortedMap.get?_insertAll, Entries.get?_reverse hnodup,
          (Entries.get?_eq_some_iff hnodup).mpr hmem]
        rfl
      show Entries.get? ((SortedMap.ofEntries entries).entries.map fun entry =>
        (entry.1, Json.string entry.2)) key = some (.string text)
      rw [Entries.get?_map]
      exact congrArg (Option.map Json.string) hfound
  | null | bool _ | number _ | string _ | array _ => cases hread

@[simp] theorem list {item : JsonCodec α} {s : S} (h : item.Keeps schema (.struct s)) :
    item.list.Keeps schema (.list s) := by
  intro json xs hkeys hgiven hread
  obtain ⟨items, rfl, hitems⟩ := exists_of_read_list hread
  obtain ⟨hlength, hpairs⟩ := Outcome.zip_of_mapM_eq_ok hitems
  cases hgiven with
  | list hgiven =>
      show schema.Kept _ _ (.array (xs.map item.write))
      refine .list (by rw [List.length_map, hlength]) fun pair hpair => ?_
      rw [List.zip_map_right] at hpair
      obtain ⟨⟨source, x⟩, hmem, rfl⟩ := List.mem_map.mp hpair
      have hsource : source ∈ items := (List.of_mem_zip hmem).1
      exact h _ _ (hkeys.item hsource) (hgiven source hsource) (hpairs _ hmem)

end Codec.Keeps

/-! ## Fields -/

namespace Field

variable {σ ε : Type} {name : String} {codec : Codec σ ε α} {value : α}

@[simp] theorem required_name : (required name codec).name = name := rfl

@[simp] theorem defaulted_name : (defaulted name codec value).name = name := rfl

variable [Source σ ε]

@[simp] theorem optional_name : (optional name codec).name = name := rfl

@[simp] theorem optionalLast_name : (optionalLast name codec).name = name := rfl

@[simp] theorem listed_name : (listed name codec).name = name := rfl

@[simp] theorem requiredList_name : (requiredList name codec).name = name := rfl

@[simp] theorem textMap_name : (textMap name : Field σ ε TextMap).name = name := rfl

end Field

namespace Field.Keeps

variable {name : String} {codec : JsonCodec α} {shape : Shape S}

@[simp] theorem required (h : codec.Keeps schema shape) :
    (Field.required name codec).Keeps schema shape :=
  h

@[simp] theorem defaulted {value : α} (h : codec.Keeps schema shape) :
    (Field.defaulted name codec value).Keeps schema shape :=
  h

@[simp] theorem optional (h : codec.Keeps schema shape) :
    (Field.optional name codec).Keeps schema shape := by
  intro json x hkeys hgiven hread
  rcases Codec.readJson_nullable_eq_ok_iff.mp hread with ⟨rfl, rfl⟩ | ⟨-, y, hy, rfl⟩
  · exact .inl rfl
  · exact h _ _ hkeys hgiven hy

@[simp] theorem optionalLast (h : codec.Keeps schema shape) :
    (Field.optionalLast name codec).Keeps schema shape :=
  (optional h : (Field.optional name codec).Keeps schema shape)

/-- A list that is not written has been given without items. -/
@[simp] theorem listed (h : codec.list.Keeps schema shape) :
    (Field.listed name codec).Keeps schema shape := by
  intro json xs hkeys hgiven hread
  cases xs with
  | nil =>
      obtain ⟨items, rfl, hitems⟩ := Codec.exists_of_read_list hread
      obtain ⟨hlength, -⟩ := Outcome.zip_of_mapM_eq_ok hitems
      rw [List.eq_nil_of_length_eq_zero hlength]
      exact .inr (.inl rfl)
  | cons x xs => exact h _ _ hkeys hgiven hread

@[simp] theorem requiredList (h : codec.list.Keeps schema shape) :
    (Field.requiredList name codec).Keeps schema shape :=
  (listed h : (Field.listed name codec).Keeps schema shape)

@[simp] theorem textMap : (Field.textMap name).Keeps schema .textMap := by
  intro json map hkeys hgiven hread
  have hkept : schema.Kept .textMap json ((Codec.text : JsonCodec String).sortedMap.write map) :=
    Codec.Keeps.textMap _ _ hkeys hgiven hread
  by_cases hempty : map.isEmpty = true
  · simp only [Field.textMap, hempty]
    obtain rfl : map = .empty := SortedMap.ext (List.isEmpty_iff.mp hempty)
    -- no entry is found in what is written for the empty map
    generalize hout : (Codec.text : JsonCodec String).sortedMap.write .empty = out at hkept
    cases hkept with
    | @textMap given written h =>
        cases hout
        have hnil : given = [] := by
          refine List.eq_nil_iff_forall_not_mem.mpr fun entry hentry => ?_
          have hnone : none = some entry.2 := h entry hentry
          cases hnone
        exact .inr (.inr ⟨rfl, congrArg Json.object hnil⟩)
  · simp only [Field.textMap, hempty]
    exact hkept

end Field.Keeps

end InfraSynth
