import InfraSynth.Decode.Value
import InfraSynth.Proofs.Collection
import InfraSynth.Proofs.Outcome

/-!
# What records are read from

A record is read entry by entry, or value by value, and it takes a run of the reader to see
what becomes of a field.  `Record.read_eq_ok_iff` says the same without a run: each field is
read from the part that is given for it, or left out where it may be, and nothing else is
given.  It holds for every notation that records are written in.

## Strategy

After some entries the slots hold what was read from these entries, so one more entry is read
exactly if its slot is free (`Fields.exists_readEntry_eq_ok_iff`).  By induction from the end,
a run over the entries succeeds exactly if their keys are distinct names of fields.  Lists are
read along the fields.
-/

namespace InfraSynth

variable {σ ε τ α : Type} {αs : List Type}

/-! ## What fields are read from -/

namespace RecordSource

/-- Whether the fields are given by name. -/
def isNamed : RecordSource σ ε → Bool
  | .named _ => true
  | .positional _ => false

/-- What is given for the field at a place: the entry with its name, or the value at that
place. -/
def part? (source : RecordSource σ ε) (place : Nat) (name : String) : Option σ :=
  match source with
  | .named entries => Entries.get? entries.parts name
  | .positional values => values.parts[place]?

/-- Fields with the given names are all that is given, each at most once. -/
def Fits (names : List String) : RecordSource σ ε → Prop
  | .named entries => entries.failure = none ∧ (Entries.keys entries.parts).Nodup ∧
      ∀ key ∈ Entries.keys entries.parts, key ∈ names
  | .positional values => values.failure = none ∧ values.parts.length ≤ names.length

end RecordSource

/-- What a field stands for if it is left out, of an object or at the end of a list. -/
def Presence.Allows (presence : Presence α) (isNamed : Bool) (x : α) : Prop :=
  presence = .defaulted x ∨ (isNamed = true ∧ presence = .optional x)

/-- The value is read from what is given for the field. -/
def Field.Reads (field : Field σ ε α) (isNamed : Bool) (part : Option σ) (x : α) : Prop :=
  match part with
  | some part => field.read part = .ok x
  | none => field.presence.Allows isNamed x

namespace Fields

/-- Each value is read from what is given for its field. -/
def Reads (isNamed : Bool) : {αs : List Type} → (Nat → String → Option σ) → Fields σ ε αs →
    Row αs → Prop
  | _, _, .nil, _ => True
  | _, part, .cons field rest, (x, xs) =>
    field.Reads isNamed (part 0 field.name) x ∧
      rest.Reads isNamed (fun place => part (place + 1)) xs

/-- No field has another name, and no two have the same. -/
structure Plain (fields : Fields σ ε αs) : Prop where
  names_eq : fields.names = fields.ownNames
  nodup : fields.ownNames.Nodup

variable {fields : Fields σ ε αs}

theorem length_ownNames : fields.ownNames.length = fields.count := by
  induction fields with
  | nil => rfl
  | cons field rest ih => rw [ownNames, count, List.length_cons, ih]

theorem length_ownNames_le : fields.ownNames.length ≤ fields.names.length := by
  induction fields with
  | nil => exact Nat.le_refl _
  | cons field rest ih =>
      simp only [ownNames, names, Field.names, List.length_append, List.length_cons]
      omega

theorem Plain.of_cons {field : Field σ ε α} (h : (Fields.cons field fields).Plain) :
    (∀ key, field.answersTo key = decide (key = field.name)) ∧ field.name ∉ fields.ownNames ∧
      fields.Plain := by
  have hnames := h.names_eq
  have hnodup := h.nodup
  rw [names, ownNames] at hnames
  rw [ownNames, List.nodup_cons] at hnodup
  have hrest : field.aliases ++ fields.names = fields.ownNames := (List.cons.inj hnames).2
  -- there is no room for other names
  have haliases : field.aliases = [] := by
    have hlength := congrArg List.length hrest
    have hle : fields.ownNames.length ≤ fields.names.length := length_ownNames_le
    rw [List.length_append] at hlength
    exact List.length_eq_zero_iff.mp (by omega)
  rw [haliases, List.nil_append] at hrest
  exact ⟨fun key => by simp [Field.answersTo, haliases], hnodup.1, hrest, hnodup.2⟩

/-! ### Reading by name -/

/-- The slots hold what was read from the entries that are found. -/
def FilledFrom : {αs : List Type} → (String → Option σ) → Fields σ ε αs → Slots αs → Prop
  | _, _, .nil, _ => True
  | _, find, .cons field rest, (slot, slots) =>
    (match find field.name with
      | some part => ∃ x, field.read part = .ok x ∧ slot = some x
      | none => slot = none) ∧ rest.FilledFrom find slots

theorem filledFrom_congr {find other : String → Option σ} {slots : Slots αs}
    (h : ∀ name ∈ fields.ownNames, find name = other name) :
    fields.FilledFrom find slots ↔ fields.FilledFrom other slots := by
  induction fields with
  | nil => exact Iff.rfl
  | cons field rest ih =>
      obtain ⟨slot, slots⟩ := slots
      simp only [FilledFrom, h field.name (List.mem_cons_self ..),
        ih fun name hname => h name (List.mem_cons_of_mem _ hname)]

theorem filledFrom_none_iff {slots : Slots αs} :
    fields.FilledFrom (fun _ => none) slots ↔ slots = fields.emptySlots := by
  induction fields with
  | nil => exact ⟨fun _ => rfl, fun _ => trivial⟩
  | cons field rest ih =>
      obtain ⟨slot, slots⟩ := slots
      simp only [FilledFrom, ih, emptySlots, Prod.mk.injEq]

variable [Source σ ε]

/-- An entry is read into the slot of its field, which must be free. -/
theorem readEntry_eq_ok_iff_of_answersTo {field : Field σ ε α} {known : List String} {key : String}
    {part : σ} {before after : Slots (α :: αs)} (h : field.answersTo key = true) :
    (Fields.cons field fields).readEntry known key part before = .ok after ↔
      before.1 = none ∧ (∃ x, field.read part = .ok x ∧ after.1 = some x) ∧ before.2 = after.2 := by
  obtain ⟨slot, slots⟩ := before
  obtain ⟨slot', slots'⟩ := after
  unfold readEntry
  rw [if_pos h]
  cases slot with
  | some x => simp
  | none =>
      cases hread : field.read part with
      | error e => simp [bind, Except.bind]
      | ok x => simp [bind, Except.bind, pure, Except.pure, eq_comm]

/-- It passes the fields that it does not belong to. -/
theorem readEntry_eq_ok_iff_of_not_answersTo {field : Field σ ε α} {known : List String}
    {key : String} {part : σ} {before after : Slots (α :: αs)} (h : field.answersTo key = false) :
    (Fields.cons field fields).readEntry known key part before = .ok after ↔
      before.1 = after.1 ∧ fields.readEntry known key part before.2 = .ok after.2 := by
  obtain ⟨slot, slots⟩ := before
  obtain ⟨slot', slots'⟩ := after
  have hstep : (Fields.cons field fields).readEntry known key part (slot, slots) =
      fields.readEntry known key part slots >>= fun slots => .ok (slot, slots) := by
    simp only [readEntry, h]
    rfl
  rw [hstep, Outcome.bind_eq_ok_iff]
  simp only [Except.ok.injEq, Prod.mk.injEq]
  constructor
  · rintro ⟨others, hothers, rfl, rfl⟩
    exact ⟨rfl, hothers⟩
  · rintro ⟨rfl, hothers⟩
    exact ⟨slots', hothers, rfl, rfl⟩

/-- One more entry is read exactly if its field has no value yet. -/
theorem exists_readEntry_eq_ok_iff (hplain : fields.Plain) {known : List String} {key : String}
    {part : σ} {find : String → Option σ} {slots : Slots αs} :
    (∃ before, fields.FilledFrom find before ∧
      fields.readEntry known key part before = .ok slots) ↔
      key ∈ fields.ownNames ∧ find key = none ∧
        fields.FilledFrom (fun name => if name = key then some part else find name) slots := by
  induction fields with
  | nil => simp [ownNames, readEntry]
  | @cons α αs field rest ih =>
      obtain ⟨hanswers, hnew, hrest⟩ := hplain.of_cons
      by_cases hkey : key = field.name
      · -- the entry belongs to the first field, and the others stay as they are
        subst hkey
        have hlater : ∀ {others : Slots αs},
            rest.FilledFrom (fun name => if name = field.name then some part else find name)
              others ↔ rest.FilledFrom find others :=
          filledFrom_congr fun name hname =>
            if_neg fun (heq : name = field.name) => hnew (heq ▸ hname)
        have hfirst : field.answersTo field.name = true := by simp [hanswers]
        simp only [readEntry_eq_ok_iff_of_answersTo hfirst, ownNames, List.mem_cons_self, true_and,
          FilledFrom, if_pos, hlater]
        constructor
        · rintro ⟨before, ⟨hbefore, hothers⟩, hnone, ⟨x, hx, hafter⟩, hsame⟩
          refine ⟨?_, ⟨x, hx, hafter⟩, hsame ▸ hothers⟩
          cases hfind : find field.name with
          | none => rfl
          | some part =>
              rw [hfind, hnone] at hbefore
              obtain ⟨y, -, hy⟩ := hbefore
              cases hy
        · rintro ⟨hfind, hread, hothers⟩
          exact ⟨(none, slots.2), ⟨by rw [hfind], hothers⟩, rfl, hread, rfl⟩
      · -- the first field stays as it is, and the others read the entry
        have hother : field.answersTo key = false := by simp [hanswers, hkey]
        have hne : ¬field.name = key := fun heq => hkey heq.symm
        simp only [readEntry_eq_ok_iff_of_not_answersTo hother, ownNames, List.mem_cons, hkey,
          false_or, FilledFrom, if_neg hne]
        constructor
        · rintro ⟨before, ⟨hbefore, hothers⟩, hsame, hnext⟩
          obtain ⟨hmem, hfree, hfilled⟩ := (ih hrest).mp ⟨before.2, hothers, hnext⟩
          exact ⟨hmem, hfree, hsame ▸ hbefore, hfilled⟩
        · rintro ⟨hmem, hfree, hslot, hfilled⟩
          obtain ⟨others, hothers, hnext⟩ := (ih hrest).mpr ⟨hmem, hfree, hfilled⟩
          exact ⟨(slots.1, others), ⟨hslot, hothers⟩, rfl, hnext⟩

/-- Entries are read exactly if each belongs to a field of its own. -/
theorem foldlM_readEntry_eq_ok_iff (hplain : fields.Plain) {known : List String}
    {entries : Entries σ} {slots : Slots αs} :
    entries.foldlM (fun slots (key, part) => fields.readEntry known key part slots)
      fields.emptySlots = .ok slots ↔
      (Entries.keys entries).Nodup ∧ (∀ key ∈ Entries.keys entries, key ∈ fields.ownNames) ∧
        fields.FilledFrom (Entries.get? entries) slots := by
  -- on the entries from the last to the first: what is before an entry has been read when it is
  induction entries using List.reverseRecOn generalizing slots with
  | nil =>
      have hnone : fields.FilledFrom (Entries.get? ([] : Entries σ)) slots ↔
          slots = fields.emptySlots := filledFrom_none_iff
      simp [hnone, pure, Except.pure, Entries.keys, eq_comm]
  | append_singleton entries entry ih =>
      obtain ⟨key, part⟩ := entry
      have hkeys : Entries.keys (entries ++ [(key, part)]) = Entries.keys entries ++ [key] := by
        simp [Entries.keys]
      have hnodup : (Entries.keys entries ++ [key]).Nodup ↔
          (Entries.keys entries).Nodup ∧ Entries.get? entries key = none := by
        rw [Entries.get?_eq_none_iff, List.nodup_append_comm, List.singleton_append,
          List.nodup_cons, and_comm]
      rw [List.foldlM_append, Outcome.bind_eq_ok_iff, hkeys, hnodup]
      simp only [ih, List.foldlM_cons, List.foldlM_nil, bind_pure, List.mem_append,
        List.mem_singleton, or_imp, forall_and, forall_eq]
      have hstep : (∃ before, fields.FilledFrom (Entries.get? entries) before ∧
          fields.readEntry known key part before = .ok slots) ↔ _ :=
        exists_readEntry_eq_ok_iff hplain
      have hfind : Entries.get? entries key = none →
          (fun name => if name = key then some part else Entries.get? entries name) =
            Entries.get? (entries ++ [(key, part)]) := by
        intro hfree
        funext name
        rw [← Entries.insert_of_not_mem (Entries.get?_eq_none_iff.mp hfree), Entries.get?_insert]
        simp only [eq_comm]
      constructor
      · rintro ⟨before, ⟨hdistinct, hknown, hbefore⟩, hread⟩
        obtain ⟨hkey, hfree, hafter⟩ := hstep.mp ⟨before, hbefore, hread⟩
        rw [hfind hfree] at hafter
        exact ⟨⟨hdistinct, hfree⟩, ⟨hknown, hkey⟩, hafter⟩
      · rintro ⟨⟨hdistinct, hfree⟩, ⟨hknown, hkey⟩, hafter⟩
        rw [← hfind hfree] at hafter
        obtain ⟨before, hbefore, hread⟩ := hstep.mpr ⟨hkey, hfree, hafter⟩
        exact ⟨before, ⟨hdistinct, hknown, hbefore⟩, hread⟩

/-- A slot is filled with what was read, or with what its field stands for if it is left
out. -/
theorem fill_cons_eq_ok_iff {field : Field σ ε α} {slots : Slots (α :: αs)}
    {row : Row (α :: αs)} :
    (Fields.cons field fields).fill slots = .ok row ↔
      (slots.1 = some row.1 ∨ slots.1 = none ∧ field.presence.Allows true row.1) ∧
        fields.fill slots.2 = .ok row.2 := by
  obtain ⟨slot, slots⟩ := slots
  obtain ⟨x, xs⟩ := row
  have hrest : ∀ y : α, (fields.fill slots >>= fun others => Except.ok (y, others)) = .ok (x, xs) ↔
      y = x ∧ fields.fill slots = .ok xs := by
    intro y
    rw [Outcome.bind_eq_ok_iff]
    simp only [Except.ok.injEq, Prod.mk.injEq]
    exact ⟨fun ⟨_, h, hy, heq⟩ => ⟨hy, heq ▸ h⟩, fun ⟨hy, h⟩ => ⟨xs, h, hy, rfl⟩⟩
  cases slot with
  | some y =>
      refine (hrest y).trans ?_
      simp
  | none =>
      cases hpresence : field.presence with
      | required =>
          simp [fill, hpresence, Presence.Allows, bind, Except.bind]
      | optional y | defaulted y =>
          have hstep : (Fields.cons field fields).fill (none, slots) =
              (fields.fill slots >>= fun others => Except.ok (y, others)) := by
            simp only [fill, hpresence]
            rfl
          rw [hstep, hrest]
          simp [Presence.Allows]

theorem exists_fill_eq_ok_iff {find : String → Option σ} {row : Row αs} :
    (∃ slots, fields.FilledFrom find slots ∧ fields.fill slots = .ok row) ↔
      fields.Reads true (fun _ => find) row := by
  induction fields with
  | nil => exact ⟨fun _ => trivial, fun _ => ⟨(), trivial, rfl⟩⟩
  | cons field rest ih =>
      obtain ⟨x, xs⟩ := row
      simp only [FilledFrom, Reads, ← ih]
      cases hfind : find field.name with
      | some part =>
          constructor
          · rintro ⟨slots, ⟨⟨y, hy, hslot⟩, hothers⟩, h⟩
            obtain ⟨hfirst, hrest⟩ := fill_cons_eq_ok_iff.mp h
            rw [hslot] at hfirst
            obtain rfl : y = x := by simpa using hfirst
            exact ⟨hy, slots.2, hothers, hrest⟩
          · rintro ⟨hx, others, hothers, hrest⟩
            exact ⟨(some x, others), ⟨⟨x, hx, rfl⟩, hothers⟩,
              fill_cons_eq_ok_iff.mpr ⟨.inl rfl, hrest⟩⟩
      | none =>
          constructor
          · rintro ⟨slots, ⟨hslot, hothers⟩, h⟩
            obtain ⟨hfirst, hrest⟩ := fill_cons_eq_ok_iff.mp h
            rw [hslot] at hfirst
            have hallows : field.presence.Allows true x := by simpa using hfirst
            exact ⟨hallows, slots.2, hothers, hrest⟩
          · rintro ⟨hallows, others, hothers, hrest⟩
            exact ⟨(none, others), ⟨rfl, hothers⟩,
              fill_cons_eq_ok_iff.mpr ⟨.inr ⟨rfl, hallows⟩, hrest⟩⟩

theorem readNamed_eq_ok_iff (hplain : fields.Plain) {entries : Listing (String × σ) ε}
    {row : Row αs} :
    fields.readNamed entries = .ok row ↔
      (RecordSource.named entries).Fits fields.ownNames ∧
        fields.Reads true (RecordSource.named entries).part? row := by
  have hparts : (RecordSource.named entries).part? = fun _ => Entries.get? entries.parts := rfl
  rw [readNamed, Outcome.bind_eq_ok_iff, hparts, ← exists_fill_eq_ok_iff]
  simp only [foldlM_readEntry_eq_ok_iff hplain, RecordSource.Fits]
  cases entries.failure with
  | some failure => simp
  | none =>
      constructor
      · rintro ⟨slots, ⟨hnodup, hknown, hfilled⟩, hfill⟩
        exact ⟨⟨rfl, hnodup, hknown⟩, slots, hfilled, hfill⟩
      · rintro ⟨⟨-, hnodup, hknown⟩, slots, hfilled, hfill⟩
        exact ⟨slots, ⟨hnodup, hknown, hfilled⟩, hfill⟩

/-! ### Reading by place -/

omit [Source σ ε] in
theorem readPositional_eq_ok_iff {cut : Nat → ε} {index : Nat} {parts : List σ} {row : Row αs} :
    fields.readPositional none cut index parts = .ok (row, []) ↔
      parts.length ≤ fields.count ∧ fields.Reads false (fun place _ => parts[place]?) row := by
  induction fields generalizing index parts with
  | nil => simp [readPositional, count, Reads]
  | @cons α αs field rest ih =>
      obtain ⟨x, xs⟩ := row
      -- the first field takes its value, and the others are read from the rest
      have hrest : ∀ (first : Except ε α) (parts : List σ),
          (first >>= fun y => rest.readPositional none cut (index + 1) parts >>= fun others =>
            .ok ((y, others.1), others.2)) = .ok ((x, xs), []) ↔
          first = .ok x ∧ parts.length ≤ rest.count ∧
            rest.Reads false (fun place _ => parts[place]?) xs := by
        intro first parts
        rw [← @ih (index + 1), Outcome.bind_eq_ok_iff]
        simp only [Outcome.bind_eq_ok_iff, Except.ok.injEq, Prod.mk.injEq]
        constructor
        · rintro ⟨y, hy, ⟨others, left⟩, hothers, ⟨rfl, rfl⟩, rfl⟩
          exact ⟨hy, hothers⟩
        · rintro ⟨hx, hothers⟩
          exact ⟨x, hx, (xs, []), hothers, ⟨rfl, rfl⟩, rfl⟩
      cases parts with
      | nil =>
          -- without a value there has to be one that the field stands for
          obtain ⟨first, hfirst, hnil⟩ : ∃ first : Except ε α,
              (first = .ok x ↔ field.presence.Allows false x) ∧
                (Fields.cons field rest).readPositional none cut index [] =
                  (first >>= fun y => rest.readPositional none cut (index + 1) [] >>= fun others =>
                    .ok ((y, others.1), others.2)) := by
            cases hpresence : field.presence with
            | required =>
                refine ⟨.error (cut index), by simp [Presence.Allows], ?_⟩
                simp only [readPositional, hpresence]
                rfl
            | optional y =>
                refine ⟨.error (cut index), by simp [Presence.Allows], ?_⟩
                simp only [readPositional, hpresence]
                rfl
            | defaulted y =>
                refine ⟨.ok y, by simp [Presence.Allows], ?_⟩
                simp only [readPositional, hpresence]
                rfl
          rw [hnil, hrest, hfirst]
          simp only [List.length_nil, Nat.zero_le, true_and, Reads, List.getElem?_nil, Field.Reads]
      | cons part parts =>
          refine (hrest _ parts).trans ?_
          simp only [List.length_cons, count, Nat.add_le_add_iff_right, Reads,
            List.getElem?_cons_zero, List.getElem?_cons_succ, Field.Reads]
          exact and_left_comm

end Fields

/-- **What a record is read from.**  Every field has its part or is left out, and there is
nothing else. -/
theorem Record.read_eq_ok_iff [Source σ ε] {record : Record σ ε τ} (hplain : record.fields.Plain)
    {part : σ} {x : τ} :
    record.read part = .ok x ↔ ∃ source row,
      Source.record record.name record.fields.ownNames part = .ok source ∧
        source.Fits record.fields.ownNames ∧
        record.fields.Reads source.isNamed source.part? row ∧ record.build row = x := by
  rw [Record.read, Outcome.bind_eq_ok_iff]
  refine exists_congr fun source => ?_
  cases source with
  | named entries =>
      simp only [Outcome.bind_eq_ok_iff, Outcome.pure_eq_ok_iff, Fields.readNamed_eq_ok_iff hplain,
        RecordSource.isNamed]
      constructor
      · rintro ⟨hsource, row, ⟨hfits, hreads⟩, hbuild⟩
        exact ⟨row, hsource, hfits, hreads, hbuild⟩
      · rintro ⟨row, hsource, hfits, hreads, hbuild⟩
        exact ⟨hsource, row, ⟨hfits, hreads⟩, hbuild⟩
  | positional values =>
      obtain ⟨parts, failure⟩ := values
      have hpart : (RecordSource.positional ⟨parts, failure⟩ : RecordSource σ ε).part? =
          fun place _ => parts[place]? := rfl
      simp only [Outcome.bind_eq_ok_iff, RecordSource.Fits, RecordSource.isNamed, hpart,
        Fields.length_ownNames]
      -- a list that goes wrong is no record, whether its values suffice or not
      cases failure with
      | some failure =>
          simp only [reduceCtorEq, false_and, and_false, exists_false, iff_false]
          rintro ⟨-, ⟨row, left⟩, -, h⟩
          cases left <;> cases h
      | none =>
          constructor
          · rintro ⟨hsource, ⟨row, left⟩, hread, h⟩
            cases left with
            | cons => cases h
            | nil =>
                obtain ⟨hlength, hreads⟩ := Fields.readPositional_eq_ok_iff.mp hread
                exact ⟨row, hsource, ⟨rfl, hlength⟩, hreads, Except.ok.inj h⟩
          · rintro ⟨row, hsource, ⟨-, hlength⟩, hreads, rfl⟩
            exact ⟨hsource, (row, []), Fields.readPositional_eq_ok_iff.mpr ⟨hlength, hreads⟩, rfl⟩

/-! ## What codecs read -/

theorem Codec.readJson_text_eq_ok_iff {value : Json} {x : String} :
    (Codec.text : JsonCodec String).read value = .ok x ↔ value = .string x := by
  cases value with
  | string text =>
      show Except.ok text = .ok x ↔ _
      simp
  | null | bool _ | number _ | array _ | object _ => exact ⟨nofun, nofun⟩

theorem Codec.readJson_flag_eq_ok_iff {value : Json} {x : Bool} :
    (Codec.flag : JsonCodec Bool).read value = .ok x ↔ value = .bool x := by
  cases value with
  | bool flag =>
      show Except.ok flag = .ok x ↔ _
      simp
  | null | string _ | number _ | array _ | object _ => exact ⟨nofun, nofun⟩

/-- A value is read as an absent one or a present one. -/
theorem Codec.read_nullable_eq_ok_iff [Source σ ε] {codec : Codec σ ε α} {part : σ} {absent : Bool}
    (h : Source.isAbsent part = .ok absent) {x : Option α} :
    codec.nullable.read part = .ok x ↔
      absent = true ∧ x = none ∨ absent = false ∧ ∃ y, codec.read part = .ok y ∧ x = some y := by
  have hread : codec.nullable.read part =
      if absent = true then .ok none else codec.read part >>= fun y => .ok (some y) := by
    simp only [Codec.nullable, h]
    rfl
  rw [hread]
  cases absent with
  | true => simp [eq_comm]
  | false =>
      simp only [Bool.false_eq_true, if_false, false_and, false_or, true_and, Except.ok.injEq,
        Outcome.bind_eq_ok_iff, eq_comm (a := x)]

theorem Codec.readJson_nullable_eq_ok_iff {codec : JsonCodec α} {value : Json} {x : Option α} :
    codec.nullable.read value = .ok x ↔
      value = .null ∧ x = none ∨ value ≠ .null ∧ ∃ y, codec.read value = .ok y ∧ x = some y := by
  have habsent : (Source.isAbsent value : Except DecodeError Bool) = .ok (decide (value = .null)) :=
    rfl
  simp only [read_nullable_eq_ok_iff habsent, decide_eq_true_eq, decide_eq_false_iff_not]

end InfraSynth
