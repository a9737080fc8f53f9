import InfraSynth.Decode.Value
import InfraSynth.Json.Source
import InfraSynth.Proofs.Decode.Reading
import InfraSynth.Proofs.Json.ReadBack

/-!
# Reading texts and reading their values

A text is decoded from its draft, which has everything in the order in which it was written,
and a value is decoded for itself.  What was decoded from a draft was complete,
`Draft.ReadsWhole`, so that the text holds a value.  Where nothing is left to the order of
reading both give the same, `Draft.ReadsLike`.

Records are not read alike: a key that is given twice is an error in a text, and the value has
one of the two entries only.  `Record.readDraft_iff_readJson` says that this is the only
difference.  Maps take the last of several entries, as values do, but look at the others too,
so they are compared key by key, `Codec.rel_get?_of_readDraft`.
-/

namespace InfraSynth

namespace Json

/-! ## What is given for a field -/

/-- What is given for the field at a place of a record: the entry with its name, or the value
at that place. -/
def part? (value : Json) (place : Nat) (name : String) : Option Json :=
  match value with
  | .object entries => Entries.get? entries name
  | .array items => items[place]?
  | _ => none

/-- Whether a record is given by the names of its fields. -/
def isNamed : Json → Bool
  | .object _ => true
  | _ => false

/-- A record could be given by the value, as far as the number of its fields and their names
go. -/
def FitsNames (names : List String) : Json → Prop
  | .object entries => (Entries.keys entries).Nodup ∧ ∀ key ∈ Entries.keys entries, key ∈ names
  | .array items => items.length ≤ names.length
  | _ => False

end Json

theorem Record.readJson_eq_ok_iff {τ : Type} {record : JsonRecord τ} (hplain : record.fields.Plain)
    {value : Json} {x : τ} :
    record.read value = .ok x ↔ value.FitsNames record.fields.ownNames ∧
      ∃ row, record.fields.Reads value.isNamed value.part? row ∧ record.build row = x := by
  rw [Record.read_eq_ok_iff hplain]
  cases value with
  | object entries =>
      constructor
      · rintro ⟨_, row, ⟨⟩, hfits, hreads⟩
        exact ⟨hfits.2, row, hreads⟩
      · rintro ⟨hfits, row, hreads⟩
        exact ⟨_, row, rfl, ⟨rfl, hfits⟩, hreads⟩
  | array items =>
      constructor
      · rintro ⟨_, row, ⟨⟩, hfits, hreads⟩
        exact ⟨hfits.2, row, hreads⟩
      · rintro ⟨hfits, row, hreads⟩
        exact ⟨_, row, rfl, ⟨rfl, hfits⟩, hreads⟩
  | null | bool _ | number _ | string _ =>
      constructor
      · rintro ⟨_, _, ⟨⟩, -⟩
      · rintro ⟨⟨⟩, -⟩

namespace Json.Draft

/-- What is given for the field at a place of a record. -/
def part? (draft : Draft) (place : Nat) (name : String) : Option Draft :=
  match draft with
  | .object entries _ => Entries.get? entries name
  | .array items _ => items[place]?
  | _ => none

/-- Whether a record is given by the names of its fields. -/
def isNamed : Draft → Bool
  | .object .. => true
  | _ => false

/-- A record could be given by the draft, as far as the number of its fields and their names
go. -/
def FitsNames (names : List String) : Draft → Prop
  | .object entries fault => fault = none ∧ (Entries.keys entries).Nodup ∧
      ∀ key ∈ Entries.keys entries, key ∈ names
  | .array items fault => fault = none ∧ items.length ≤ names.length
  | _ => False

/-- The draft is an object that has a key twice. -/
def RepeatsKey : Draft → Prop
  | .object entries _ => ¬(Entries.keys entries).Nodup
  | _ => False

/-- Of several entries with one key the last one counts. -/
def get? (draft : Draft) (key : String) : Option Draft :=
  match draft with
  | .object entries _ => Entries.get? entries.reverse key
  | _ => none

/-! ## The value of a draft -/

/-- What the draft stands for, if it is complete. -/
def IsValue (draft : Draft) (value : Json) : Prop :=
  draft.toJson = .ok value

variable {items : List Draft} {entries : Entries Draft} {fault : Option Fault} {draft : Draft}
  {value : Json}

theorem IsValue.unique {other : Json} (h : draft.IsValue value) (h' : draft.IsValue other) :
    value = other :=
  Except.ok.inj (h.symm.trans h')

theorem toItems_eq_ok_iff {values : List Json} :
    toItems items = .ok values ↔ List.Forall₂ IsValue items values := by
  induction items generalizing values with
  | nil => simp [toItems, eq_comm]
  | cons item rest ih =>
      simp only [toItems, Outcome.bind_eq_ok_iff, Outcome.pure_eq_ok_iff, ih,
        List.forall₂_cons_left_iff, IsValue]
      constructor
      · rintro ⟨value, hvalue, others, hothers, rfl⟩
        exact ⟨value, others, hvalue, hothers, rfl⟩
      · rintro ⟨value, others, hvalue, hothers, rfl⟩
        exact ⟨value, hvalue, others, hothers, rfl⟩

theorem toEntries_eq_ok_iff {before values : Entries Json} :
    toEntries entries before = .ok values ↔
      ∃ given, entries.Related IsValue given ∧ before.insertAll given = values := by
  induction entries generalizing before with
  | nil => simp [toEntries, Entries.Related, Entries.insertAll]
  | cons entry rest ih =>
      obtain ⟨key, draft⟩ := entry
      simp only [toEntries, Outcome.bind_eq_ok_iff, ih, Entries.Related,
        List.forall₂_cons_left_iff]
      constructor
      · rintro ⟨value, hvalue, given, hgiven, rfl⟩
        exact ⟨(key, value) :: given, ⟨(key, value), given, ⟨rfl, hvalue⟩, hgiven, rfl⟩, rfl⟩
      · rintro ⟨_, ⟨⟨_, value⟩, given, ⟨rfl, hvalue⟩, hgiven, rfl⟩, rfl⟩
        exact ⟨value, hvalue, given, hgiven, rfl⟩

theorem isValue_array_iff :
    (array items fault).IsValue value ↔
      fault = none ∧ ∃ values, List.Forall₂ IsValue items values ∧ value = .array values := by
  rw [IsValue, toJson, Outcome.bind_eq_ok_iff]
  simp only [toItems_eq_ok_iff]
  cases fault with
  | some fault => simp
  | none => simp [eq_comm]

theorem isValue_object_iff :
    (object entries fault).IsValue value ↔
      fault = none ∧ ∃ given, entries.Related IsValue given ∧ value = .object given.merged := by
  rw [IsValue, toJson, Outcome.bind_eq_ok_iff]
  simp only [toEntries_eq_ok_iff, Entries.insertAll_nil]
  cases fault with
  | some fault => simp
  | none => simp [eq_comm]

theorem isValue_object_of_not_repeatsKey (h : ¬(object entries fault).RepeatsKey) :
    (object entries fault).IsValue value ↔
      fault = none ∧ ∃ given, entries.Related IsValue given ∧ value = .object given := by
  rw [isValue_object_iff]
  refine and_congr_right fun _ => exists_congr fun given => and_congr_right fun hgiven => ?_
  rw [Entries.merged_of_nodup]
  rw [← hgiven.keys_eq]
  exact not_not.mp h

/-- A list is complete if its items are. -/
theorem exists_isValue_array (h : ∀ item ∈ items, ∃ value, item.IsValue value) :
    ∃ value, (array items none).IsValue value := by
  obtain ⟨values, hvalues⟩ := exists_forall₂ h
  exact ⟨_, isValue_array_iff.mpr ⟨rfl, values, hvalues, rfl⟩⟩

/-- So is an object. -/
theorem exists_isValue_object (h : ∀ entry ∈ entries, ∃ value, entry.2.IsValue value) :
    ∃ value, (object entries none).IsValue value := by
  have hentries : ∀ entry ∈ entries,
      ∃ value : String × Json, entry.1 = value.1 ∧ entry.2.IsValue value.2 := by
    intro entry hentry
    obtain ⟨value, hvalue⟩ := h entry hentry
    exact ⟨(entry.1, value), rfl, hvalue⟩
  obtain ⟨given, hgiven⟩ := exists_forall₂ hentries
  exact ⟨_, isValue_object_iff.mpr ⟨rfl, given, hgiven, rfl⟩⟩

/-- A value that is no container has one draft. -/
theorem isValue_iff_of_depth (h : value.depth = 0) :
    draft.IsValue value ↔ draft = .ofJson value := by
  constructor
  · intro hvalue
    cases draft with
    | null | bool _ | number _ | string _ =>
        cases hvalue
        rfl
    | array items fault =>
        obtain ⟨-, values, -, rfl⟩ := isValue_array_iff.mp hvalue
        cases h
    | object entries fault =>
        obtain ⟨-, given, -, rfl⟩ := isValue_object_iff.mp hvalue
        cases h
    | broken fault => cases hvalue
  · rintro rfl
    cases value <;> first | rfl | cases h

/-- What counts of a draft is what is found in its value. -/
theorem IsValue.get? (h : draft.IsValue value) (key : String) :
    Option.Rel IsValue (draft.get? key) (value.get? key) := by
  cases draft with
  | object entries fault =>
      obtain ⟨-, given, hgiven, rfl⟩ := isValue_object_iff.mp h
      have hfound : (Json.object given.merged).get? key = Entries.get? given.reverse key :=
        Entries.get?_merged given
      rw [hfound]
      exact hgiven.reverse.get? key
  | array items fault =>
      obtain ⟨-, values, -, rfl⟩ := isValue_array_iff.mp h
      exact .none
  | null | bool _ | number _ | string _ =>
      cases h
      exact .none
  | broken fault => cases h

/-- Without repeated keys, what is given for a field is what the value gives for it. -/
theorem IsValue.part? (h : draft.IsValue value) (hdistinct : ¬draft.RepeatsKey) (place : Nat)
    (name : String) : Option.Rel IsValue (draft.part? place name) (value.part? place name) := by
  cases draft with
  | object entries fault =>
      obtain ⟨-, given, hgiven, rfl⟩ := (isValue_object_of_not_repeatsKey hdistinct).mp h
      exact hgiven.get? name
  | array items fault =>
      obtain ⟨-, values, hvalues, rfl⟩ := isValue_array_iff.mp h
      exact getElem?_rel hvalues place
  | null | bool _ | number _ | string _ =>
      cases h
      exact .none
  | broken fault => cases h

/-- A draft fits a record if its value does, unless it has a key twice. -/
theorem IsValue.fitsNames_iff (h : draft.IsValue value) {names : List String} :
    draft.FitsNames names ↔ ¬draft.RepeatsKey ∧ value.FitsNames names := by
  cases draft with
  | object entries fault =>
      by_cases hdistinct : (Entries.keys entries).Nodup
      · obtain ⟨rfl, given, hgiven, rfl⟩ :=
          (isValue_object_of_not_repeatsKey (not_not.mpr hdistinct)).mp h
        simp [FitsNames, RepeatsKey, Json.FitsNames, hdistinct, ← hgiven.keys_eq]
      · simp [FitsNames, RepeatsKey, hdistinct]
  | array items fault =>
      obtain ⟨hfault, values, hvalues, rfl⟩ := isValue_array_iff.mp h
      simp [FitsNames, RepeatsKey, Json.FitsNames, hfault, hvalues.length_eq]
  | null | bool _ | number _ | string _ =>
      cases h
      simp [FitsNames, Json.FitsNames]
  | broken fault => cases h

theorem IsValue.isNamed_eq (h : draft.IsValue value) : draft.isNamed = value.isNamed := by
  cases draft with
  | object entries fault =>
      obtain ⟨-, given, -, rfl⟩ := isValue_object_iff.mp h
      rfl
  | array items fault =>
      obtain ⟨-, values, -, rfl⟩ := isValue_array_iff.mp h
      rfl
  | null | bool _ | number _ | string _ =>
      cases h
      rfl
  | broken fault => cases h

end Json.Draft

open Json (Draft)

variable {τ α : Type} {αs : List Type} {draft : Draft}

theorem Record.readDraft_eq_ok_iff {record : Record Draft DocumentError τ}
    (hplain : record.fields.Plain) {x : τ} :
    record.read draft = .ok x ↔ draft.FitsNames record.fields.ownNames ∧
      ∃ row, record.fields.Reads draft.isNamed draft.part? row ∧ record.build row = x := by
  have hfault : ∀ fault : Option Json.Fault, fault.map DocumentError.text = none ↔ fault = none :=
    fun _ => Option.map_eq_none_iff
  rw [Record.read_eq_ok_iff hplain]
  cases draft with
  | object entries fault =>
      constructor
      · rintro ⟨_, row, ⟨⟩, hfits, hreads⟩
        exact ⟨⟨(hfault _).mp hfits.1, hfits.2⟩, row, hreads⟩
      · rintro ⟨hfits, row, hreads⟩
        exact ⟨_, row, rfl, ⟨(hfault _).mpr hfits.1, hfits.2⟩, hreads⟩
  | array items fault =>
      constructor
      · rintro ⟨_, row, ⟨⟩, hfits, hreads⟩
        exact ⟨⟨(hfault _).mp hfits.1, hfits.2⟩, row, hreads⟩
      · rintro ⟨hfits, row, hreads⟩
        exact ⟨_, row, rfl, ⟨(hfault _).mpr hfits.1, hfits.2⟩, hreads⟩
  | null | bool _ | number _ | string _ | broken _ =>
      constructor
      · rintro ⟨_, _, ⟨⟩, -⟩
      · rintro ⟨⟨⟩, -⟩

theorem Codec.readDraft_json_eq_ok_iff {value : Json} :
    (Codec.json : Codec Draft DocumentError Json).read draft = .ok value ↔ draft.IsValue value := by
  show draft.toJson.mapError DocumentError.text = _ ↔ draft.toJson = _
  cases draft.toJson <;> simp [Except.mapError]

theorem Listing.traverse_eq_ok_iff {β γ ε : Type} {read : β → Except ε γ} {listing : Listing β ε}
    {values : List γ} :
    listing.traverse read = .ok values ↔ listing.failure = none ∧
      List.Forall₂ (fun part value => read part = .ok value) listing.parts values := by
  rw [traverse, Outcome.bind_eq_ok_iff]
  simp only [Outcome.mapM_eq_ok_iff]
  cases listing.failure <;> simp

theorem Codec.readDraft_list_eq_ok_iff {item : Codec Draft DocumentError α} {xs : List α} :
    item.list.read draft = .ok xs ↔ ∃ items, draft = .array items none ∧
      List.Forall₂ (fun draft x => item.read draft = .ok x) items xs := by
  rw [Codec.list, Outcome.bind_eq_ok_iff]
  simp only [Listing.traverse_eq_ok_iff]
  constructor
  · rintro ⟨listing, hlisting, hcomplete, hitems⟩
    cases draft with
    | array items fault =>
        cases hlisting
        obtain rfl : fault = none := Option.map_eq_none_iff.mp hcomplete
        exact ⟨items, rfl, hitems⟩
    | null | bool _ | number _ | string _ | object _ _ | broken _ => cases hlisting
  · rintro ⟨items, rfl, hitems⟩
    exact ⟨_, rfl, rfl, hitems⟩

theorem Codec.readDraft_sortedMap_eq_ok_iff {codec : Codec Draft DocumentError α}
    {map : SortedMap α} :
    codec.sortedMap.read draft = .ok map ↔ ∃ entries xs, draft = .object entries none ∧
      Entries.Related (fun draft x => codec.read draft = .ok x) entries xs ∧
        .ofEntries xs = map := by
  have hentry : ∀ (entry : String × Draft) (other : String × α),
      (do return (entry.1, ← codec.read entry.2)) = Except.ok (ε := DocumentError) other ↔
        entry.1 = other.1 ∧ codec.read entry.2 = .ok other.2 := by
    intro entry other
    rw [Outcome.bind_eq_ok_iff]
    simp only [Outcome.pure_eq_ok_iff]
    constructor
    · rintro ⟨x, hx, rfl⟩
      exact ⟨rfl, hx⟩
    · rintro ⟨hkey, hx⟩
      exact ⟨_, hx, Prod.ext hkey rfl⟩
  rw [Codec.sortedMap, Outcome.bind_eq_ok_iff]
  simp only [Outcome.bind_eq_ok_iff, Outcome.pure_eq_ok_iff, Listing.traverse_eq_ok_iff, hentry]
  constructor
  · rintro ⟨listing, hlisting, xs, ⟨hcomplete, hentries⟩, hmap⟩
    cases draft with
    | object entries fault =>
        cases hlisting
        obtain rfl : fault = none := Option.map_eq_none_iff.mp hcomplete
        exact ⟨entries, xs, rfl, hentries, hmap⟩
    | null | bool _ | number _ | string _ | array _ _ | broken _ => cases hlisting
  · rintro ⟨entries, xs, rfl, hentries, hmap⟩
    exact ⟨_, rfl, xs, ⟨rfl, hentries⟩, hmap⟩

/-- What a map has for a key is read from the last entry with that key. -/
theorem Codec.rel_get?_of_readDraft {codec : Codec Draft DocumentError α} {map : SortedMap α}
    (h : codec.sortedMap.read draft = .ok map) (key : String) :
    Option.Rel (fun draft x => codec.read draft = .ok x) (draft.get? key) (map.get? key) := by
  obtain ⟨entries, xs, rfl, hentries, rfl⟩ := Codec.readDraft_sortedMap_eq_ok_iff.mp h
  have hfound : (SortedMap.ofEntries xs).get? key = Entries.get? xs.reverse key := by
    rw [SortedMap.ofEntries, SortedMap.get?_insertAll]
    exact Option.or_none
  rw [hfound]
  exact hentries.reverse.get? key

/-! ## What is read is complete -/

namespace Json.Draft

/-- Only complete drafts are read. -/
def ReadsWhole (read : Draft → Except DocumentError α) : Prop :=
  ∀ {draft x}, read draft = .ok x → ∃ value, draft.IsValue value

/-- Drafts are read like their values. -/
structure ReadsLike (read : Draft → Except DocumentError α) (other : Json → Except DecodeError α) :
    Prop where
  whole : ReadsWhole read
  read_iff : ∀ {draft value x}, draft.IsValue value → (read draft = .ok x ↔ other value = .ok x)

end Json.Draft

open Json.Draft (ReadsWhole ReadsLike)

namespace Fields

/-- Each field reads complete drafts only. -/
def ReadsWhole : {αs : List Type} → Fields Draft DocumentError αs → Prop
  | _, .nil => True
  | _, .cons field rest => Draft.ReadsWhole field.read ∧ rest.ReadsWhole

/-- The fields have the same names, may be left out alike, and read drafts like their
values. -/
inductive ReadsLike : {αs : List Type} → Fields Draft DocumentError αs →
    Fields Json DecodeError αs → Prop
  | nil : ReadsLike .nil .nil
  | cons {α : Type} {αs : List Type} {field : Field Draft DocumentError α} {other : JsonField α}
      {rest : Fields Draft DocumentError αs} {others : Fields Json DecodeError αs}
      (hname : field.name = other.name) (hpresence : field.presence = other.presence)
      (hread : Draft.ReadsLike field.read other.read) (hrest : ReadsLike rest others) :
      ReadsLike (.cons field rest) (.cons other others)

variable {fields : Fields Draft DocumentError αs} {others : Fields Json DecodeError αs}
  {isNamed : Bool} {part : Nat → String → Option Draft} {row : Row αs}

/-- What is given for any of the fields is read, so it is complete. -/
theorem ReadsWhole.exists_isValue (h : fields.ReadsWhole) (hreads : fields.Reads isNamed part row)
    {place : Nat} {name : String} (hname : fields.ownNames[place]? = some name)
    (hpart : part place name = some draft) : ∃ value, draft.IsValue value := by
  induction fields generalizing part place with
  | nil => cases hname
  | cons field rest ih =>
      cases place with
      | zero =>
          obtain rfl : field.name = name := Option.some.inj hname
          have hfield : field.read draft = .ok row.1 := by
            have hfirst := hreads.1
            rwa [hpart] at hfirst
          exact h.1 hfield
      | succ place => exact ih h.2 hreads.2 hname hpart

theorem ReadsLike.whole (h : fields.ReadsLike others) : fields.ReadsWhole := by
  induction h with
  | nil => trivial
  | cons _ _ hread _ ih => exact ⟨hread.whole, ih⟩

theorem ReadsLike.ownNames_eq (h : fields.ReadsLike others) :
    fields.ownNames = others.ownNames := by
  induction h with
  | nil => rfl
  | cons hname _ _ _ ih => rw [ownNames, ownNames, hname, ih]

theorem ReadsLike.reads_iff (h : fields.ReadsLike others) {other : Nat → String → Option Json}
    (hparts : ∀ place name, Option.Rel Draft.IsValue (part place name) (other place name)) :
    fields.Reads isNamed part row ↔ others.Reads isNamed other row := by
  induction h generalizing part other with
  | nil => exact Iff.rfl
  | @cons α αs field otherField rest others hname hpresence hread _ ih =>
      obtain ⟨x, xs⟩ := row
      refine and_congr ?_ (ih fun place => hparts (place + 1))
      rw [← hname]
      have hpart := hparts 0 field.name
      generalize part 0 field.name = given at hpart
      generalize other 0 field.name = value at hpart
      cases hpart with
      | none => rw [Field.Reads, Field.Reads, hpresence]
      | some hvalue => exact hread.read_iff hvalue

end Fields

/-! ### Records -/

theorem Json.Draft.ReadsWhole.record {record : Record Draft DocumentError τ}
    (hplain : record.fields.Plain) (h : record.fields.ReadsWhole) :
    Draft.ReadsWhole record.read := by
  intro draft x hread
  obtain ⟨hfits, row, hreads, -⟩ := (Record.readDraft_eq_ok_iff hplain).mp hread
  cases draft with
  | object entries fault =>
      obtain ⟨rfl, hdistinct, hknown⟩ := hfits
      refine Draft.exists_isValue_object fun entry hentry => ?_
      have hkey : entry.1 ∈ record.fields.ownNames := hknown _ (List.mem_map_of_mem hentry)
      obtain ⟨place, hplace⟩ := List.mem_iff_getElem?.mp hkey
      exact h.exists_isValue hreads hplace ((Entries.get?_eq_some_iff hdistinct).mpr hentry)
  | array items fault =>
      obtain ⟨rfl, hlength⟩ := hfits
      refine Draft.exists_isValue_array fun item hitem => ?_
      obtain ⟨place, hplace⟩ := List.mem_iff_getElem?.mp hitem
      have hlt : place < record.fields.ownNames.length := by
        have := (List.getElem?_eq_some_iff.mp hplace).1
        omega
      exact h.exists_isValue hreads (List.getElem?_eq_getElem hlt) hplace
  | null | bool _ | number _ | string _ | broken _ => cases hfits

/-- **A draft is read as a record exactly if its value is, and it has no key twice.** -/
theorem Record.readDraft_iff_readJson {name : String} {fields : Fields Draft DocumentError αs}
    {others : Fields Json DecodeError αs} {build : Row αs → τ} {row : τ → Row αs}
    (h : fields.ReadsLike others) (hplain : fields.Plain) (hothers : others.Plain)
    {value : Json} (hvalue : draft.IsValue value) {x : τ} :
    (⟨name, αs, fields, build, row⟩ : Record Draft DocumentError τ).read draft = .ok x ↔
      ¬draft.RepeatsKey ∧ (⟨name, αs, others, build, row⟩ : JsonRecord τ).read value = .ok x := by
  rw [Record.readDraft_eq_ok_iff hplain, Record.readJson_eq_ok_iff hothers,
    hvalue.fitsNames_iff, hvalue.isNamed_eq, h.ownNames_eq, and_assoc]
  refine and_congr_right fun hdistinct => and_congr_right fun _ => exists_congr fun row => ?_
  exact and_congr_left fun _ => h.reads_iff (hvalue.part? hdistinct)

/-! ### Codecs -/

theorem Codec.readDraft_text_eq_ok_iff {x : String} :
    (Codec.text : Codec Draft DocumentError String).read draft = .ok x ↔ draft = .string x := by
  cases draft with
  | string text =>
      show Except.ok text = .ok x ↔ _
      simp
  | null | bool _ | number _ | array _ _ | object _ _ | broken _ => exact ⟨nofun, nofun⟩

theorem Codec.readDraft_flag_eq_ok_iff {x : Bool} :
    (Codec.flag : Codec Draft DocumentError Bool).read draft = .ok x ↔ draft = .bool x := by
  cases draft with
  | bool flag =>
      show Except.ok flag = .ok x ↔ _
      simp
  | null | string _ | number _ | array _ _ | object _ _ | broken _ => exact ⟨nofun, nofun⟩

theorem Codec.readDraft_nullable_eq_ok_iff {codec : Codec Draft DocumentError α} {x : Option α} :
    codec.nullable.read draft = .ok x ↔
      draft = .null ∧ x = none ∨ draft ≠ .null ∧ ∃ y, codec.read draft = .ok y ∧ x = some y := by
  cases draft with
  | null =>
      refine (read_nullable_eq_ok_iff (show Source.isAbsent _ = .ok true from rfl)).trans ?_
      simp
  | bool _ | number _ | string _ | array _ _ | object _ _ | broken _ =>
      refine (read_nullable_eq_ok_iff (show Source.isAbsent _ = .ok false from rfl)).trans ?_
      simp

namespace Json.Draft.ReadsLike

/-- Values that are no containers are read alike if they are read for themselves. -/
theorem of_scalar {codec : Codec Draft DocumentError α} {other : JsonCodec α} (scalar : α → Json)
    (hscalar : ∀ x, (scalar x).depth = 0)
    (hcodec : ∀ draft x, codec.read draft = .ok x ↔ draft = .ofJson (scalar x))
    (hother : ∀ value x, other.read value = .ok x ↔ value = scalar x) :
    Draft.ReadsLike codec.read other.read where
  whole {draft x} h := ⟨scalar x, (isValue_iff_of_depth (hscalar x)).mpr ((hcodec draft x).mp h)⟩
  read_iff {draft value x} hvalue := by
    rw [hcodec, hother, ← isValue_iff_of_depth (hscalar x)]
    exact ⟨hvalue.unique, fun heq => heq ▸ hvalue⟩

theorem text : Draft.ReadsLike (Codec.text : Codec Draft DocumentError String).read
    (Codec.text : JsonCodec String).read :=
  of_scalar .string (fun _ => rfl) (fun _ _ => Codec.readDraft_text_eq_ok_iff)
    fun _ _ => Codec.readJson_text_eq_ok_iff

theorem flag : Draft.ReadsLike (Codec.flag : Codec Draft DocumentError Bool).read
    (Codec.flag : JsonCodec Bool).read :=
  of_scalar .bool (fun _ => rfl) (fun _ _ => Codec.readDraft_flag_eq_ok_iff)
    fun _ _ => Codec.readJson_flag_eq_ok_iff

theorem json : Draft.ReadsLike (Codec.json : Codec Draft DocumentError Json).read
    (Codec.json : JsonCodec Json).read where
  whole {draft x} h := ⟨x, Codec.readDraft_json_eq_ok_iff.mp h⟩
  read_iff {draft value x} hvalue := by
    rw [Codec.readDraft_json_eq_ok_iff]
    constructor
    · intro h
      exact congrArg Except.ok (hvalue.unique h)
    · rintro ⟨⟩
      exact hvalue

end Json.Draft.ReadsLike

namespace Json.Draft.ReadsWhole

variable {codec : Codec Draft DocumentError α}

theorem nullable (h : Draft.ReadsWhole codec.read) : Draft.ReadsWhole codec.nullable.read := by
  intro draft x hread
  rcases Codec.readDraft_nullable_eq_ok_iff.mp hread with ⟨rfl, -⟩ | ⟨-, y, hy, -⟩
  · exact ⟨.null, rfl⟩
  · exact h hy

theorem list (h : Draft.ReadsWhole codec.read) : Draft.ReadsWhole codec.list.read := by
  intro draft xs hread
  obtain ⟨items, rfl, hitems⟩ := Codec.readDraft_list_eq_ok_iff.mp hread
  refine Draft.exists_isValue_array fun item hitem => ?_
  obtain ⟨x, hx⟩ := exists_of_forall₂ hitems hitem
  exact h hx

theorem sortedMap (h : Draft.ReadsWhole codec.read) : Draft.ReadsWhole codec.sortedMap.read := by
  intro draft map hread
  obtain ⟨entries, xs, rfl, hentries, -⟩ := Codec.readDraft_sortedMap_eq_ok_iff.mp hread
  refine Draft.exists_isValue_object fun entry hentry => ?_
  obtain ⟨other, -, hread⟩ := exists_of_forall₂ hentries hentry
  exact h hread

end Json.Draft.ReadsWhole

theorem Json.Draft.ReadsLike.nullable {codec : Codec Draft DocumentError α} {other : JsonCodec α}
    (h : Draft.ReadsLike codec.read other.read) :
    Draft.ReadsLike codec.nullable.read other.nullable.read where
  whole := Json.Draft.ReadsWhole.nullable h.whole
  read_iff {draft value x} hvalue := by
    have hnull : draft = .null ↔ value = .null := by
      rw [← show Draft.IsValue draft .null ↔ draft = .null from isValue_iff_of_depth rfl]
      exact ⟨hvalue.unique, fun heq => heq ▸ hvalue⟩
    rw [Codec.readDraft_nullable_eq_ok_iff, Codec.readJson_nullable_eq_ok_iff, ne_eq, ne_eq, hnull]
    simp only [h.read_iff hvalue]

end InfraSynth
