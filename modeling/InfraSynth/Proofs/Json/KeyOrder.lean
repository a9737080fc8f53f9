import InfraSynth.Json.Basic
import InfraSynth.Proofs.Collection

/-!
# Values up to the order of keys

An object keeps its keys in the order in which they were inserted, but what is
looked up in it does not depend on that order.  `Json.SameUpToOrder` relates the
values that differ in nothing but the order of keys, at any depth;
`Json.SameUpToOrder.get?` says that they have the same keys with such values.
-/

namespace InfraSynth.Json

mutual

/-- Values that differ in nothing but the order of keys in objects. -/
inductive SameUpToOrder : Json → Json → Prop
  | refl (value : Json) : SameUpToOrder value value
  | array {items others : List Json} (h : SameItems items others) :
    SameUpToOrder (.array items) (.array others)
  | object {entries middle others : Entries Json} (h : SameValues entries middle)
    (horder : middle.Perm others) : SameUpToOrder (.object entries) (.object others)

/-- Lists of such values, item by item. -/
inductive SameItems : List Json → List Json → Prop
  | nil : SameItems [] []
  | cons {item other : Json} {items others : List Json} (h : SameUpToOrder item other)
    (hrest : SameItems items others) : SameItems (item :: items) (other :: others)

/-- Entries with the same keys in the same order, and with such values. -/
inductive SameValues : Entries Json → Entries Json → Prop
  | nil : SameValues [] []
  | cons {value other : Json} {entries others : Entries Json} (key : String)
    (h : SameUpToOrder value other) (hrest : SameValues entries others) :
    SameValues ((key, value) :: entries) ((key, other) :: others)

end

namespace SameValues

variable {entries others : Entries Json}

theorem refl (entries : Entries Json) : SameValues entries entries := by
  induction entries with
  | nil => exact .nil
  | cons entry rest ih => exact .cons entry.1 (.refl entry.2) ih

theorem keys_eq (h : SameValues entries others) : Entries.keys entries = Entries.keys others := by
  induction entries generalizing others with
  | nil =>
      cases h
      rfl
  | cons entry rest ih =>
      cases h with
      | cons key _ hrest => exact congrArg (key :: ·) (ih hrest)

theorem get? (h : SameValues entries others) (key : String) :
    Option.Rel SameUpToOrder (Entries.get? entries key) (Entries.get? others key) := by
  induction entries generalizing others with
  | nil =>
      cases h
      exact .none
  | cons entry rest ih =>
      cases h with
      | cons k hvalue hrest =>
          rw [Entries.get?, Entries.get?]
          by_cases hk : k = key
          · rw [if_pos hk, if_pos hk]
            exact .some hvalue
          · rw [if_neg hk, if_neg hk]
            exact ih hrest

/-- Values for the same keys, computed in two ways. -/
theorem map {α : Type} {xs : List α} (key : α → String) {first second : α → Json}
    (h : ∀ x ∈ xs, SameUpToOrder (first x) (second x)) :
    SameValues (xs.map fun x => (key x, first x)) (xs.map fun x => (key x, second x)) := by
  induction xs with
  | nil => exact .nil
  | cons x rest ih =>
      have hrest := ih fun y hy => h y (List.mem_cons_of_mem _ hy)
      exact .cons (key x) (h x (List.mem_cons_self ..)) hrest

end SameValues

namespace SameUpToOrder

variable {entries others : Entries Json}

theorem object_of_perm (h : entries.Perm others) :
    SameUpToOrder (.object entries) (.object others) :=
  .object (SameValues.refl entries) h

theorem object_of_sameValues (h : SameValues entries others) :
    SameUpToOrder (.object entries) (.object others) :=
  .object h (.refl others)

theorem keys_perm (h : SameUpToOrder (.object entries) (.object others)) :
    (Entries.keys entries).Perm (Entries.keys others) := by
  cases h with
  | refl => exact .refl _
  | object hvalues horder =>
      rw [hvalues.keys_eq]
      exact horder.map Prod.fst

theorem isEmpty_eq (h : SameUpToOrder (.object entries) (.object others)) :
    entries.isEmpty = others.isEmpty := by
  have hlength := h.keys_perm.length_eq
  cases entries <;> cases others <;> simp_all [Entries.keys]

/-- **A key has such values in two objects that differ in nothing but the order of
keys**, or none in either. -/
theorem get? (h : SameUpToOrder (.object entries) (.object others))
    (hdistinct : (Entries.keys entries).Nodup) (key : String) :
    Option.Rel SameUpToOrder (Entries.get? entries key) (Entries.get? others key) := by
  cases h with
  | refl => exact (SameValues.refl entries).get? key
  | @object _ middle _ hvalues horder =>
      have hmiddle : (Entries.keys middle).Nodup := hvalues.keys_eq ▸ hdistinct
      rw [← Entries.get?_of_perm hmiddle horder]
      exact hvalues.get? key

end SameUpToOrder

end InfraSynth.Json
