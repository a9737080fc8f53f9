/-!
# Entries in order of first insertion

A JSON object, a block under construction and the sections of a document are
all lists of entries in which inserting an existing key keeps its place and
replaces its value.
-/

namespace InfraSynth

/-- Keys with their values, in order of first insertion. -/
abbrev Entries (α : Type) := List (String × α)

namespace Entries

variable {α : Type}

/-- The value of a key. -/
def get? (entries : Entries α) (key : String) : Option α :=
  match entries with
  | [] => none
  | (k, value) :: rest => if k = key then some value else get? rest key

/-- Whether a key has a value. -/
def contains (entries : Entries α) (key : String) : Bool :=
  (get? entries key).isSome

/-- The keys in order. -/
def keys (entries : Entries α) : List String :=
  entries.map Prod.fst

/-- Give a key a value.  A new key goes to the end, an old one keeps its
place. -/
def insert (entries : Entries α) (key : String) (value : α) : Entries α :=
  match entries with
  | [] => [(key, value)]
  | (k, old) :: rest =>
    if k = key then (k, value) :: rest else (k, old) :: insert rest key value

/-- Insert several entries one after the other. -/
def insertAll (entries more : Entries α) : Entries α :=
  more.foldl (fun result (key, value) => insert result key value) entries

theorem get?_insert (entries : Entries α) (key : String) (value : α) (other : String) :
    get? (insert entries key value) other =
      if key = other then some value else get? entries other := by
  induction entries with
  | nil => simp [insert, get?]
  | cons entry rest ih =>
    obtain ⟨k, old⟩ := entry
    by_cases hk : k = key
    · subst hk
      by_cases ho : k = other <;> simp [insert, get?, ho]
    · by_cases ho : k = other
      · subst ho
        have : key ≠ k := fun h => hk h.symm
        simp [insert, get?, hk, this]
      · simp [insert, get?, hk, ho, ih]

theorem keys_insert (entries : Entries α) (key : String) (value : α) :
    keys (insert entries key value) =
      if key ∈ keys entries then keys entries else keys entries ++ [key] := by
  induction entries with
  | nil => simp [insert, keys]
  | cons entry rest ih =>
    obtain ⟨k, old⟩ := entry
    by_cases hk : k = key
    · subst hk; simp [insert, keys]
    · have hne : key ≠ k := fun h => hk h.symm
      simp only [keys] at ih
      simp only [insert, hk, if_false, keys, List.map_cons, ih, List.mem_cons, hne, false_or]
      split <;> simp [*]

end Entries

end InfraSynth
