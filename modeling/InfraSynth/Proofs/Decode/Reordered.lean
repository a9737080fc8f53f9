import InfraSynth.Proofs.Decode.Faithful
import InfraSynth.Proofs.Json.Reordered

/-!
# Decoding values whose keys are in another order

Entries are decoded in the order in which they were written, and the first one that
does not fit is reported.  So the order of keys may decide which error comes first,
but it decides neither whether there is one nor what is read if there is none.

## Strategy

Values that are read from two sources are compared by a relation, which is equality
unless something keeps the order of keys.  `Codec.Respects` says that a codec reads
related values from a value and from the same value in another order.  A record
does if its fields do: entries that are reordered one by one fill the slots with
related values (`Fields.Respects.readEntry`), and entries that are swapped fill them
with the same (`Fields.agree_readEntry_swap`).

A codec for which the relation is equality is blind to the order of keys.  That is
found by instances, field by field.
-/

namespace InfraSynth

open Outcome (Agree)

variable {α : Type} {αs : List Type} {R : α → α → Prop}

/-- What is read from a value is related to what is read from it in another order. -/
def Codec.Respects (codec : JsonCodec α) (R : α → α → Prop) : Prop :=
  ∀ value other : Json, value.Reordered other → Agree R (codec.read value) (codec.read other)

/-- The same for a field, whose default is related to itself. -/
structure Field.Respects (field : JsonField α) (R : α → α → Prop) : Prop where
  read : ∀ value other : Json, value.Reordered other → Agree R (field.read value) (field.read other)
  default : ∀ x, field.presence = .optional x ∨ field.presence = .defaulted x → R x x

/-- A relation for each of several fields. -/
inductive Relations : List Type → Type 1
  | nil : Relations []
  | cons {α : Type} {αs : List Type} (R : α → α → Prop) (rest : Relations αs) : Relations (α :: αs)

namespace Relations

/-- The values in two rows are related one by one. -/
def Rows : {αs : List Type} → Relations αs → Row αs → Row αs → Prop
  | _, .nil, _, _ => True
  | _, .cons R rest, (x, xs), (y, ys) => R x y ∧ rest.Rows xs ys

/-- The same slots are filled, with related values. -/
def Slots : {αs : List Type} → Relations αs → InfraSynth.Slots αs → InfraSynth.Slots αs → Prop
  | _, .nil, _, _ => True
  | _, .cons R rest, (x, xs), (y, ys) => Option.Rel R x y ∧ rest.Slots xs ys

/-- Equality for every field. -/
def equal : (αs : List Type) → Relations αs
  | [] => .nil
  | _ :: αs => .cons Eq (equal αs)

theorem rows_equal_iff {row other : Row αs} : (equal αs).Rows row other ↔ row = other := by
  induction αs with
  | nil => exact ⟨fun _ => rfl, fun _ => trivial⟩
  | cons α αs ih =>
      obtain ⟨x, xs⟩ := row
      obtain ⟨y, ys⟩ := other
      rw [equal, Rows, ih, Prod.mk.injEq]

end Relations

/-- Read a value into a slot, which must be empty. -/
def Field.readSlot (field : JsonField α) (value : Json) : Option α → Except DecodeError (Option α)
  | some _ => .error (.duplicateField field.name)
  | none => (field.read value).map some

theorem Field.Respects.readSlot {field : JsonField α} (h : field.Respects R) {value other : Json}
    (hvalue : value.Reordered other) {slot second : Option α} (hslot : Option.Rel R slot second) :
    Agree (Option.Rel R) (field.readSlot value slot) (field.readSlot other second) := by
  cases hslot with
  | some _ => exact .error _ _
  | none => exact (h.read value other hvalue).map fun _ _ hxy => .some hxy

/-- A slot is filled once: the second of two values is an error. -/
theorem Field.agree_readSlot_swap (field : JsonField α) (slot : Option α) (value other : Json) :
    Agree Eq (field.readSlot value slot >>= field.readSlot other)
      (field.readSlot other slot >>= field.readSlot value) := by
  cases slot with
  | some x => exact .error _ _
  | none =>
      unfold readSlot
      cases field.read value <;> cases field.read other <;> exact .error _ _

namespace Fields

/-- Each field respects its relation. -/
inductive Respects : {αs : List Type} → Fields Json DecodeError αs → Relations αs → Prop
  | nil : Respects .nil .nil
  | cons {α : Type} {αs : List Type} {field : JsonField α} {rest : Fields Json DecodeError αs}
      {R : α → α → Prop} {relations : Relations αs} (hfield : field.Respects R)
      (hrest : Respects rest relations) : Respects (.cons field rest) (.cons R relations)

variable {fields : Fields Json DecodeError αs} {relations : Relations αs}

/-! ## Entries -/

theorem readEntry_cons {field : JsonField α} {rest : Fields Json DecodeError αs}
    {known : List String} {key : String} {value : Json} (slots : Slots (α :: αs)) :
    (Fields.cons field rest).readEntry known key value slots =
      if field.answersTo key = true then
        (field.readSlot value slots.1).map fun slot => (slot, slots.2)
      else (rest.readEntry known key value slots.2).map fun others => (slots.1, others) := by
  obtain ⟨slot, slots⟩ := slots
  by_cases hkey : field.answersTo key = true
  · rw [if_pos hkey]
    cases slot with
    | some x =>
        simp only [readEntry, if_pos hkey]
        rfl
    | none =>
        simp only [readEntry, if_pos hkey, Field.readSlot, Outcome.map_map]
        cases field.read value <;> rfl
  · simp only [readEntry, if_neg hkey]
    cases rest.readEntry known key value slots <;> rfl

/-- Two entries can be read in either order: they go to different slots, or the
second one of them is an error. -/
theorem agree_readEntry_swap (fields : Fields Json DecodeError αs) (known : List String)
    (slots : Slots αs) (entry next : String × Json) :
    Agree Eq
      (fields.readEntry known entry.1 entry.2 slots >>= fun slots =>
        fields.readEntry known next.1 next.2 slots)
      (fields.readEntry known next.1 next.2 slots >>= fun slots =>
        fields.readEntry known entry.1 entry.2 slots) := by
  induction fields with
  | nil => exact .error _ _
  | cons field rest ih =>
      simp only [readEntry_cons]
      -- the field takes both entries, one of them, or neither
      by_cases hentry : field.answersTo entry.1 = true <;>
        by_cases hnext : field.answersTo next.1 = true <;>
        simp only [hentry, hnext, if_true, if_false, Bool.false_eq_true]
      · rw [Outcome.map_fst_bind (field.readSlot entry.2),
          Outcome.map_fst_bind (field.readSlot next.2)]
        exact (field.agree_readSlot_swap slots.1 entry.2 next.2).map fun _ _ h => by rw [h]
      · exact Outcome.agree_map_swap (field.readSlot entry.2)
          (rest.readEntry known next.1 next.2) slots
      · exact (Outcome.agree_map_swap (field.readSlot next.2)
          (rest.readEntry known entry.1 entry.2) slots).symm
      · rw [Outcome.map_snd_bind (rest.readEntry known entry.1 entry.2),
          Outcome.map_snd_bind (rest.readEntry known next.1 next.2)]
        exact (ih slots.2).map fun _ _ h => by rw [h]

theorem Respects.slots_emptySlots (h : fields.Respects relations) :
    relations.Slots fields.emptySlots fields.emptySlots := by
  induction h with
  | nil => trivial
  | cons _ _ ih => exact ⟨.none, ih⟩

theorem Respects.readEntry (h : fields.Respects relations) {known : List String} {key : String}
    {value other : Json} (hvalue : value.Reordered other) {slots others : Slots αs}
    (hslots : relations.Slots slots others) :
    Agree relations.Slots (fields.readEntry known key value slots)
      (fields.readEntry known key other others) := by
  induction h with
  | nil => exact .error _ _
  | cons hfield _ ih =>
      obtain ⟨slot, slots⟩ := slots
      obtain ⟨second, others⟩ := others
      obtain ⟨hslot, hrest⟩ := hslots
      rw [readEntry_cons, readEntry_cons]
      split
      · exact (hfield.readSlot hvalue hslot).map fun _ _ hslot => ⟨hslot, hrest⟩
      · exact (ih hrest).map fun _ _ hslots => ⟨hslot, hslots⟩

theorem Respects.fill (h : fields.Respects relations) {slots others : Slots αs}
    (hslots : relations.Slots slots others) :
    Agree relations.Rows (fields.fill slots) (fields.fill others) := by
  induction h with
  | nil => exact .ok trivial
  | @cons _ _ field rest R relations hfield _ ih =>
      obtain ⟨slot, slots⟩ := slots
      obtain ⟨second, others⟩ := others
      obtain ⟨hslot, hrest⟩ := hslots
      have hlater : ∀ {x y}, R x y → Agree (Relations.cons R relations).Rows
          (rest.fill slots >>= fun xs => pure (x, xs))
          (rest.fill others >>= fun ys => pure (y, ys)) :=
        fun hxy => (ih hrest).bind_pure fun _ _ hrows => ⟨hxy, hrows⟩
      cases hslot with
      | some hxy => exact hlater hxy
      | none =>
          cases hpresence : field.presence <;> simp only [Fields.fill, hpresence]
          · exact .error _ _
          · exact hlater (hfield.default _ (.inl hpresence))
          · exact hlater (hfield.default _ (.inr hpresence))

/-- The slots after some entries have been read. -/
def readEntries (fields : Fields Json DecodeError αs) (entries : Entries Json) :
    Except DecodeError (Slots αs) :=
  entries.foldlM (fun slots (key, value) => fields.readEntry fields.names key value slots)
    fields.emptySlots

/-- Entries that are reordered are read into related rows. -/
theorem Respects.readNamed (h : fields.Respects relations) {entries others : Entries Json}
    (hentries : (Json.object entries).Reordered (.object others)) :
    Agree relations.Rows (fields.readNamed (.complete entries))
      (fields.readNamed (.complete others)) := by
  obtain ⟨middle, _, heq, horder, hvalues⟩ := hentries.exists_object
  cases heq
  -- the values are changed first, entry by entry, and then the order
  have hslots : Agree relations.Slots (fields.readEntries entries) (fields.readEntries others) := by
    refine Agree.trans_eq (Agree.foldlM hvalues ?_ h.slots_emptySlots)
      (Agree.foldlM_of_perm horder (fields.agree_readEntry_swap fields.names) _)
    rintro s t ⟨key, value⟩ ⟨_, other⟩ hst ⟨rfl, hvalue⟩
    exact h.readEntry hvalue hst
  exact hslots.bind fun s t hst => h.fill hst

/-! ## Items -/

/-- Items that are reordered one by one are read into related rows, and the same
number of them is left. -/
theorem Respects.readPositional (h : fields.Respects relations) {cut : Nat → DecodeError}
    {index : Nat} {items others : List Json} (hitems : List.Forall₂ Json.Reordered items others) :
    Agree (fun read second => relations.Rows read.1 second.1 ∧
        List.Forall₂ Json.Reordered read.2 second.2)
      (fields.readPositional none cut index items)
      (fields.readPositional none cut index others) := by
  induction h generalizing index items others with
  | nil => exact .ok ⟨trivial, hitems⟩
  | @cons _ _ field rest R relations hfield _ ih =>
      cases hitems with
      | nil =>
          cases hpresence : field.presence <;> simp only [Fields.readPositional, hpresence]
          · exact .error _ _
          · exact .error _ _
          · exact (ih .nil).bind_pure fun _ _ hread =>
              ⟨⟨hfield.default _ (.inr hpresence), hread.1⟩, hread.2⟩
      | cons hitem hitems =>
          rw [Fields.readPositional, Fields.readPositional]
          exact (hfield.read _ _ hitem).bind fun x y hxy =>
            (ih hitems).bind_pure fun _ _ hread => ⟨⟨hxy, hread.1⟩, hread.2⟩

end Fields

/-! ## Records -/

/-- A record respects a relation if its fields respect theirs. -/
theorem Codec.Respects.record {record : JsonRecord α} {relations : Relations record.types}
    (h : record.fields.Respects relations)
    (hbuild : ∀ row other, relations.Rows row other → R (record.build row) (record.build other)) :
    record.codec.Respects R := by
  intro value other hvalue
  cases value with
  | object entries =>
      obtain ⟨_, others, rfl, -, -⟩ := hvalue.exists_object
      exact (h.readNamed hvalue).bind_pure hbuild
  | array items =>
      obtain ⟨others, rfl, hitems⟩ := hvalue.exists_array
      refine (h.readPositional hitems).bind ?_
      rintro ⟨row, left⟩ ⟨other, rest⟩ ⟨hrows, hleft⟩
      dsimp only
      cases hleft with
      | nil => exact .ok (hbuild _ _ hrows)
      | cons _ _ => exact .error _ _
  | null | bool _ | number _ | string _ =>
      rw [hvalue.eq_of_depth rfl]
      exact .error _ _

/-! ## Lists, maps and values that may be absent -/

namespace Codec.Respects

variable {codec : JsonCodec α}

theorem mono {S : α → α → Prop} (h : codec.Respects R) (himp : ∀ x y, R x y → S x y) :
    codec.Respects S :=
  fun value other hvalue => (h value other hvalue).mono himp

/-- A codec that reads nothing from arrays and objects. -/
theorem of_error (harray : ∀ items, ∃ e, codec.read (.array items) = .error e)
    (hobject : ∀ entries, ∃ e, codec.read (.object entries) = .error e) : codec.Respects Eq := by
  intro value other hvalue
  cases value with
  | array items =>
      obtain ⟨others, rfl, -⟩ := hvalue.exists_array
      obtain ⟨e, he⟩ := harray items
      obtain ⟨f, hf⟩ := harray others
      rw [he, hf]
      exact .error e f
  | object entries =>
      obtain ⟨_, others, rfl, -, -⟩ := hvalue.exists_object
      obtain ⟨e, he⟩ := hobject entries
      obtain ⟨f, hf⟩ := hobject others
      rw [he, hf]
      exact .error e f
  | null | bool _ | number _ | string _ =>
      rw [hvalue.eq_of_depth rfl]
      exact .refl (fun _ => rfl) _

theorem list (h : codec.Respects R) : codec.list.Respects (List.Forall₂ R) := by
  intro value other hvalue
  cases value with
  | array items =>
      obtain ⟨others, rfl, hitems⟩ := hvalue.exists_array
      have hread : ∀ items, codec.list.read (.array items) = items.mapM codec.read :=
        fun _ => Listing.traverse_complete
      rw [hread, hread]
      exact Agree.mapM hitems h
  | object entries =>
      obtain ⟨_, others, rfl, -, -⟩ := hvalue.exists_object
      exact .error _ _
  | null | bool _ | number _ | string _ =>
      rw [hvalue.eq_of_depth rfl]
      exact .error _ _

theorem nullable (h : codec.Respects R) : codec.nullable.Respects (Option.Rel R) := by
  intro value other hvalue
  by_cases hnull : value = .null
  · rw [hvalue.eq_null_iff.mp hnull, hnull]
    exact .ok .none
  · have hread : ∀ value : Json, value ≠ .null →
        codec.nullable.read value = (codec.read value >>= fun x => pure (some x)) := by
      intro value hne
      simp only [Codec.nullable, Source.isAbsent, hne]
      rfl
    rw [hread value hnull, hread other (mt hvalue.eq_null_iff.mpr hnull)]
    exact (h value other hvalue).bind_pure fun _ _ => .some

/-- The order of entries plays no part in a sorted map. -/
theorem sortedMap (h : codec.Respects Eq) : codec.sortedMap.Respects Eq := by
  intro value other hvalue
  cases value with
  | object entries =>
      obtain ⟨middle, others, rfl, horder, hvalues⟩ := hvalue.exists_object
      let readOne (entry : String × Json) : Except DecodeError (String × α) := do
        return (entry.1, ← codec.read entry.2)
      have hread : ∀ entries, codec.sortedMap.read (.object entries) =
          (entries.mapM readOne >>= fun entries => pure (.ofEntries entries)) := by
        intro entries
        rw [← Listing.traverse_complete]
        rfl
      have hone : Agree Eq (entries.mapM readOne) (middle.mapM readOne) := by
        refine (Agree.mapM (R := Eq) hvalues ?_).mono fun _ _ hlists => ?_
        · rintro ⟨key, value⟩ ⟨_, other⟩ ⟨rfl, hvalue⟩
          exact (h value other hvalue).bind_pure fun _ _ hxy => by rw [hxy]
        · rwa [List.forall₂_eq_eq_eq] at hlists
      have hall : Agree List.Perm (entries.mapM readOne) (others.mapM readOne) :=
        (hone.trans (Agree.mapM_of_perm horder)).mono fun _ _ ⟨_, heq, hperm⟩ => heq ▸ hperm
      rw [hread, hread]
      refine hall.remember.bind_pure ?_
      rintro xs ys ⟨hxs, -, hperm⟩
      -- of two values under one key the order would decide which is kept
      have hkeys : Entries.keys xs = Entries.keys entries := by
        refine Outcome.map_eq_map_of_mapM_eq_ok (fun {entry found} hentry => ?_) hxs
        obtain ⟨x, -, hx⟩ := Outcome.bind_eq_ok_iff.mp hentry
        cases hx
        rfl
      exact SortedMap.ofEntries_of_perm (hkeys ▸ hvalue.distinctKeys.nodup) hperm
  | array items =>
      obtain ⟨others, rfl, -⟩ := hvalue.exists_array
      exact .error _ _
  | null | bool _ | number _ | string _ =>
      rw [hvalue.eq_of_depth rfl]
      exact .error _ _

/-- A name may be the only key of an object, whose value is null. -/
theorem named [Enumeration α] : (Codec.named : JsonCodec α).Respects Eq := by
  intro value other hvalue
  cases value with
  | object entries =>
      obtain ⟨middle, others, rfl, horder, hvalues⟩ := hvalue.exists_object
      have hlength : entries.length = others.length := hvalues.length_eq.trans horder.length_eq
      cases hvalues with
      | nil =>
          rw [← horder.nil_eq]
          exact .error _ _
      | @cons entry next _ _ hentry hrest =>
          cases hrest with
          | nil =>
              obtain ⟨name, value⟩ := entry
              obtain ⟨_, other⟩ := next
              obtain ⟨rfl, hvalue⟩ := hentry
              rw [List.perm_singleton.mp horder.symm]
              refine (Agree.refl (R := Eq) (fun _ => rfl) (Enumeration.readName name)).bind ?_
              rintro x _ rfl
              by_cases hnull : value = .null
              · rw [if_pos hnull, if_pos (hvalue.eq_null_iff.mp hnull)]
                exact .ok rfl
              · rw [if_neg hnull, if_neg (mt hvalue.eq_null_iff.mpr hnull)]
                exact .error _ _
          | cons _ _ =>
              -- a variant is named by one entry, and the other object has several as well
              obtain ⟨first, second, rest, rfl⟩ :
                  ∃ first second rest, others = first :: second :: rest := by
                match others, hlength with
                | first :: second :: rest, _ => exact ⟨first, second, rest, rfl⟩
              exact .error _ _
  | array items =>
      obtain ⟨others, rfl, -⟩ := hvalue.exists_array
      exact .error _ _
  | null | bool _ | number _ | string _ =>
      rw [hvalue.eq_of_depth rfl]
      exact .refl (fun _ => rfl) _

end Codec.Respects

theorem Field.Respects.required {name : String} {codec : JsonCodec α} (h : codec.Respects R) :
    (Field.required name codec).Respects R :=
  ⟨h, fun _ hpresence => by rcases hpresence with hpresence | hpresence <;> cases hpresence⟩

theorem Field.Respects.listed {name : String} {item : JsonCodec α} (h : item.Respects R) :
    (Field.listed name item).Respects (List.Forall₂ R) := by
  refine ⟨h.list, fun xs hpresence => ?_⟩
  rcases hpresence with hpresence | hpresence <;> cases hpresence
  exact .nil

/-! ## Blindness -/

/-- The same is read from a value with keys in another order. -/
class Codec.Blind (codec : JsonCodec α) : Prop where
  respects : codec.Respects Eq

/-- The same for a field. -/
class Field.Blind (field : JsonField α) : Prop where
  respects : field.Respects Eq

/-- Each field is blind. -/
class Fields.Blind (fields : Fields Json DecodeError αs) : Prop where
  respects : fields.Respects (.equal αs)

instance : Codec.Blind (Codec.text : JsonCodec String) :=
  ⟨.of_error (fun _ => ⟨_, rfl⟩) fun _ => ⟨_, rfl⟩⟩

instance : Codec.Blind (Codec.flag : JsonCodec Bool) :=
  ⟨.of_error (fun _ => ⟨_, rfl⟩) fun _ => ⟨_, rfl⟩⟩

instance : Codec.uint8.Blind := ⟨.of_error (fun _ => ⟨_, rfl⟩) fun _ => ⟨_, rfl⟩⟩
instance : Codec.uint16.Blind := ⟨.of_error (fun _ => ⟨_, rfl⟩) fun _ => ⟨_, rfl⟩⟩
instance : Codec.uint32.Blind := ⟨.of_error (fun _ => ⟨_, rfl⟩) fun _ => ⟨_, rfl⟩⟩
instance : Codec.uint64.Blind := ⟨.of_error (fun _ => ⟨_, rfl⟩) fun _ => ⟨_, rfl⟩⟩
instance : Codec.int32.Blind := ⟨.of_error (fun _ => ⟨_, rfl⟩) fun _ => ⟨_, rfl⟩⟩
instance : Codec.binary64.Blind := ⟨.of_error (fun _ => ⟨_, rfl⟩) fun _ => ⟨_, rfl⟩⟩

instance [Enumeration α] : Codec.Blind (Codec.named : JsonCodec α) := ⟨.named⟩

section Combinators

variable {name : String} {codec : JsonCodec α} [h : codec.Blind]

instance : codec.list.Blind := by
  refine ⟨h.respects.list.mono fun xs ys hlists => ?_⟩
  rwa [List.forall₂_eq_eq_eq] at hlists

instance : codec.sortedMap.Blind :=
  ⟨h.respects.sortedMap⟩

instance : codec.nullable.Blind := by
  refine ⟨h.respects.nullable.mono fun x y hrel => ?_⟩
  cases hrel with
  | none => rfl
  | some hxy => exact congrArg some hxy

/-- A field is blind if it reads what a blind codec reads. -/
theorem Field.Blind.of_read {β : Type} (reader : JsonCodec β) [hreader : reader.Blind]
    {field : JsonField β} (hread : field.read = reader.read) : field.Blind :=
  ⟨hread ▸ hreader.respects, fun _ _ => rfl⟩

instance : (Field.required name codec).Blind := .of_read codec rfl
instance {x : α} : (Field.defaulted name codec x).Blind := .of_read codec rfl
instance : (Field.optional name codec).Blind := .of_read codec.nullable rfl
instance : (Field.optionalLast name codec).Blind := .of_read codec.nullable rfl
instance : (Field.listed name codec).Blind := .of_read codec.list rfl
instance : (Field.requiredList name codec).Blind := .of_read codec.list rfl

end Combinators

instance {name : String} : (Field.textMap name : JsonField TextMap).Blind :=
  .of_read Codec.text.sortedMap rfl

/-- Other names play no part in what is read. -/
instance {field : JsonField α} [h : field.Blind] {aliases : List String} :
    Field.Blind { field with aliases := aliases } :=
  ⟨h.respects.read, h.respects.default⟩

instance : Fields.Blind .nil :=
  ⟨.nil⟩

instance {field : JsonField α} {rest : Fields Json DecodeError αs} [hfield : field.Blind]
    [hrest : rest.Blind] : Fields.Blind (.cons field rest) :=
  ⟨.cons hfield.respects hrest.respects⟩

/-- A field that is blind is passed over. -/
theorem Fields.Respects.skip {field : JsonField α} {rest : Fields Json DecodeError αs}
    {relations : Relations αs} [hfield : field.Blind] (hrest : rest.Respects relations) :
    (Fields.cons field rest).Respects (.cons Eq relations) :=
  .cons hfield.respects hrest

/-- A record is blind if its fields are. -/
instance Codec.Blind.record {record : JsonRecord α} [h : record.fields.Blind] :
    record.codec.Blind :=
  ⟨.record h.respects fun _ _ hrows => congrArg record.build (Relations.rows_equal_iff.mp hrows)⟩

end InfraSynth
