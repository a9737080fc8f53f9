import InfraSynth.Proofs.Decode.Faithful
import InfraSynth.Proofs.Json.ReadBack

/-!
# Where decoded values come from

Every value in a record that was read is either the default of its field, or the
field read it from a part of the source.  A part of a value in which keys are
distinct has distinct keys as well, so the values of the fields were all
supplied by such values.
-/

namespace InfraSynth

variable {α : Type} {αs : List Type}

/-- The value is the default of the field, or is read from a value with distinct
keys. -/
def Field.Supplies (field : JsonField α) (x : α) : Prop :=
  (∃ json : Json, json.DistinctKeys ∧ field.read json = .ok x) ∨
    field.presence = .optional x ∨ field.presence = .defaulted x

namespace Fields

/-- Each field supplies its value. -/
def Supplies : {αs : List Type} → Fields Json DecodeError αs → Row αs → Prop
  | _, .nil, _ => True
  | _, .cons field rest, (x, xs) => field.Supplies x ∧ rest.Supplies xs

/-- The slots that have been read were supplied by their fields. -/
def SuppliesSlots : {αs : List Type} → Fields Json DecodeError αs → Slots αs → Prop
  | _, .nil, _ => True
  | _, .cons field rest, (slot, slots) =>
    (∀ x ∈ slot, field.Supplies x) ∧ rest.SuppliesSlots slots

variable {fields : Fields Json DecodeError αs}

theorem suppliesSlots_emptySlots : fields.SuppliesSlots fields.emptySlots := by
  induction fields with
  | nil => trivial
  | cons field rest ih => exact ⟨by simp, ih⟩

theorem suppliesSlots_readEntry {known : List String} {key : String} {json : Json}
    {slots read : Slots αs} (hkeys : json.DistinctKeys) (hslots : fields.SuppliesSlots slots)
    (h : fields.readEntry known key json slots = .ok read) : fields.SuppliesSlots read := by
  induction fields with
  | nil => contradiction
  | cons field rest ih =>
      obtain ⟨slot, slots⟩ := slots
      by_cases hkey : field.answersTo key = true
      · cases slot with
        | some x => simp [readEntry, hkey] at h
        | none =>
            rw [readEntry, if_pos hkey] at h
            obtain ⟨x, hx, h⟩ := Outcome.bind_eq_ok_iff.mp h
            cases h
            refine ⟨fun y hy => ?_, hslots.2⟩
            obtain rfl : x = y := by simpa using hy
            exact Or.inl ⟨json, hkeys, hx⟩
      · simp only [readEntry, if_neg hkey] at h
        obtain ⟨others, hothers, h⟩ := Outcome.bind_eq_ok_iff.mp h
        cases h
        exact ⟨hslots.1, ih hslots.2 hothers⟩

/-- A slot is filled with what was read, or with the default of its field. -/
theorem fill_cons_eq_ok {field : JsonField α} {rest : Fields Json DecodeError αs}
    {slot : Option α} {slots : Slots αs} {row : Row (α :: αs)}
    (h : (Fields.cons field rest).fill (slot, slots) = .ok row) :
    (slot = some row.1 ∨ field.presence = .optional row.1 ∨ field.presence = .defaulted row.1) ∧
      rest.fill slots = .ok row.2 := by
  have hbind : ∀ {x : α}, (Except.ok x >>= fun x => rest.fill slots >>= fun xs => pure (x, xs)) =
      .ok row → x = row.1 ∧ rest.fill slots = .ok row.2 := by
    intro x h
    obtain ⟨_, hx, h⟩ := Outcome.bind_eq_ok_iff.mp h
    obtain ⟨xs, hxs, h⟩ := Outcome.bind_eq_ok_iff.mp h
    cases hx
    cases h
    exact ⟨rfl, hxs⟩
  cases slot with
  | some x =>
      obtain ⟨rfl, hrest⟩ := hbind h
      exact ⟨Or.inl rfl, hrest⟩
  | none =>
      cases hpresence : field.presence <;> simp only [fill, hpresence] at h
      · cases h
      · obtain ⟨rfl, hrest⟩ := hbind h
        exact ⟨Or.inr (Or.inl rfl), hrest⟩
      · obtain ⟨rfl, hrest⟩ := hbind h
        exact ⟨Or.inr (Or.inr rfl), hrest⟩

theorem supplies_fill {slots : Slots αs} {row : Row αs} (hslots : fields.SuppliesSlots slots)
    (h : fields.fill slots = .ok row) : fields.Supplies row := by
  induction fields with
  | nil => trivial
  | cons field rest ih =>
      obtain ⟨hfirst, hrest⟩ := fill_cons_eq_ok h
      refine ⟨?_, ih hslots.2 hrest⟩
      rcases hfirst with hread | hdefault
      · exact hslots.1 _ hread
      · exact Or.inr hdefault

theorem supplies_readNamed {entries : List (String × Json)} {row : Row αs}
    (hkeys : (Json.object entries).DistinctKeys)
    (h : fields.readNamed (.complete entries) = .ok row) : fields.Supplies row := by
  obtain ⟨slots, hread, h⟩ := Outcome.bind_eq_ok_iff.mp h
  -- that the slots are supplied is the invariant of the loop over the entries
  have hslots : fields.SuppliesSlots slots :=
    Outcome.foldlM_preserves
      (fun entry hentry _ _ hslots hstep =>
        suppliesSlots_readEntry (hkeys.entry hentry) hslots hstep)
      suppliesSlots_emptySlots hread
  exact supplies_fill hslots h

theorem supplies_readPositional {cut : Nat → DecodeError} {index : Nat} {items left : List Json}
    {row : Row αs} (hkeys : (Json.array items).DistinctKeys)
    (h : fields.readPositional none cut index items = .ok (row, left)) : fields.Supplies row := by
  induction fields generalizing index items with
  | nil => trivial
  | cons field rest ih =>
      cases items with
      | nil =>
          cases hpresence : field.presence <;> simp only [readPositional, hpresence] at h
          · cases h
          · cases h
          · obtain ⟨x, hx, h⟩ := Outcome.bind_eq_ok_iff.mp h
            obtain ⟨⟨xs, _⟩, hxs, h⟩ := Outcome.bind_eq_ok_iff.mp h
            cases hx
            cases h
            -- a list that was cut short leaves the defaults
            exact ⟨Or.inr (Or.inr hpresence), ih hkeys hxs⟩
      | cons item items =>
          rw [readPositional] at h
          obtain ⟨x, hx, h⟩ := Outcome.bind_eq_ok_iff.mp h
          obtain ⟨⟨xs, _⟩, hxs, h⟩ := Outcome.bind_eq_ok_iff.mp h
          cases h
          have hrest : (Json.array items).DistinctKeys :=
            Json.distinctKeys_array_iff.mpr fun item hitem =>
              hkeys.item (List.mem_cons_of_mem _ hitem)
          exact ⟨Or.inl ⟨item, hkeys.item (List.mem_cons_self ..), hx⟩, ih hrest hxs⟩

end Fields

/-- A record that was read is built from values that its fields supply. -/
theorem Record.supplies_read {record : JsonRecord α} {json : Json} {x : α}
    (hkeys : json.DistinctKeys) (h : record.read json = .ok x) :
    ∃ row, record.build row = x ∧ record.fields.Supplies row := by
  obtain ⟨source, hsource, h⟩ := Outcome.bind_eq_ok_iff.mp h
  cases json with
  | object entries =>
      cases hsource
      obtain ⟨row, hrow, h⟩ := Outcome.bind_eq_ok_iff.mp h
      cases h
      exact ⟨row, rfl, Fields.supplies_readNamed hkeys hrow⟩
  | array items =>
      cases hsource
      obtain ⟨⟨row, left⟩, hrow, h⟩ := Outcome.bind_eq_ok_iff.mp h
      dsimp only at h
      split at h
      · contradiction
      · cases h
        exact ⟨row, rfl, Fields.supplies_readPositional hkeys hrow⟩
  | null | bool value | number value | string value => cases hsource

/-- A list is read from an array, item by item. -/
theorem Codec.exists_of_read_list {item : JsonCodec α} {json : Json} {xs : List α}
    (h : item.list.read json = .ok xs) :
    ∃ items, json = .array items ∧ items.mapM item.read = .ok xs := by
  cases json with
  | array items =>
      refine ⟨items, rfl, ?_⟩
      rw [← Listing.traverse_complete]
      exact h
  | null | bool _ | number _ | string _ | object _ => cases h

/-- The items of a list that a field supplies were read one by one. -/
theorem Field.Supplies.exists_of_mem {name : String} {item : JsonCodec α} {xs : List α}
    (h : (Field.listed name item).Supplies xs) {x : α} (hx : x ∈ xs) :
    ∃ json : Json, json.DistinctKeys ∧ item.read json = .ok x := by
  rcases h with ⟨json, hkeys, hread⟩ | hdefault | hdefault
  · obtain ⟨items, rfl, hitems⟩ := Codec.exists_of_read_list hread
    obtain ⟨source, hsource, hx⟩ := Outcome.exists_of_mapM_eq_ok hitems hx
    exact ⟨source, hkeys.item hsource, hx⟩
  · cases hdefault
  · cases hdefault
    contradiction

end InfraSynth
