import InfraSynth.Collection.Entries

/-!
# Maps sorted by key

Tags, dimensions, variables and outputs are maps whose keys are always listed
in increasing order, code point by code point.  The order is part of the type,
so two maps with the same entries are equal.
-/

namespace InfraSynth

/-- A map whose keys are in strictly increasing order. -/
structure SortedMap (α : Type) where
  entries : Entries α
  increasing : (Entries.keys entries).Pairwise (· < ·)

namespace SortedMap

variable {α : Type}

instance [DecidableEq α] : DecidableEq (SortedMap α) := fun a b =>
  decidable_of_iff (a.entries = b.entries) ⟨fun h => by cases a; cases b; simp_all, fun h => h ▸ rfl⟩

/-- The map without entries. -/
def empty : SortedMap α :=
  ⟨[], .nil⟩

/-- Put an entry at its place in a sorted list, replacing one with the same
key. -/
def place (key : String) (value : α) : Entries α → Entries α
  | [] => [(key, value)]
  | (k, old) :: rest =>
    if key < k then (key, value) :: (k, old) :: rest
    else if k = key then (key, value) :: rest
    else (k, old) :: place key value rest

theorem mem_keys_place {key : String} {value : α} {entries : Entries α} {k : String} :
    k ∈ Entries.keys (place key value entries) ↔ k = key ∨ k ∈ Entries.keys entries := by
  induction entries with
  | nil => simp [place, Entries.keys]
  | cons entry rest ih =>
    obtain ⟨k', old⟩ := entry
    simp only [Entries.keys] at ih
    simp only [place, Entries.keys]
    split
    · simp
    · split
      · rename_i h; subst h; simp
      · simp only [List.map_cons, List.mem_cons, ih]
        constructor <;> rintro (h | h | h) <;> simp [h]

theorem pairwise_place (key : String) (value : α) {entries : Entries α}
    (h : (Entries.keys entries).Pairwise (· < ·)) :
    (Entries.keys (place key value entries)).Pairwise (· < ·) := by
  induction entries with
  | nil => simp [place, Entries.keys]
  | cons entry rest ih =>
    obtain ⟨k, old⟩ := entry
    have hrest : (Entries.keys rest).Pairwise (· < ·) := (List.pairwise_cons.1 h).2
    have hk : ∀ k' ∈ Entries.keys rest, k < k' := (List.pairwise_cons.1 h).1
    simp only [place]
    split
    · rename_i hlt
      refine List.pairwise_cons.2 ⟨fun k' hk' => ?_, h⟩
      rcases List.mem_cons.1 hk' with heq | hmem
      · exact heq ▸ hlt
      · exact String.lt_trans hlt (hk k' hmem)
    · split
      · rename_i heq
        subst heq
        exact h
      · rename_i hnlt hne
        refine List.pairwise_cons.2 ⟨fun k' hk' => ?_, ih hrest⟩
        rcases mem_keys_place.1 hk' with heq | hmem
        · subst heq
          exact Std.lt_of_le_of_ne (Std.not_lt.1 hnlt) hne
        · exact hk k' hmem

/-- Give a key a value. -/
def insert (map : SortedMap α) (key : String) (value : α) : SortedMap α :=
  ⟨place key value map.entries, pairwise_place key value map.increasing⟩

/-- Insert several entries one after the other. -/
def insertAll (map : SortedMap α) (more : Entries α) : SortedMap α :=
  more.foldl (fun result (key, value) => result.insert key value) map

/-- The map with the given entries; of several with one key the last stays. -/
def ofEntries (entries : Entries α) : SortedMap α :=
  empty.insertAll entries

/-- The value of a key. -/
def get? (map : SortedMap α) (key : String) : Option α :=
  Entries.get? map.entries key

/-- How many entries there are. -/
def size (map : SortedMap α) : Nat :=
  map.entries.length

/-- Whether there are no entries. -/
def isEmpty (map : SortedMap α) : Bool :=
  map.entries.isEmpty

end SortedMap

/-- A sorted map of texts, such as tags. -/
abbrev TextMap := SortedMap String

end InfraSynth
