import InfraSynth.Proofs.Json.KeyOrder
import InfraSynth.Proofs.Synthesizer.History

/-!
# Histories in another order

What a history says depends on its order in two ways: later items may replace
earlier ones, and sections list their keys as they came.  If no two items declare
the same thing nothing is replaced, and only the order of keys is left.  So the
documents of such a history and of the same items in another order are equal up to
the order of keys, `History.document_of_perm`.
-/

namespace InfraSynth

open Aws (ResourceType)

/-- What is declared, as far as a second declaration of it would touch the first. -/
inductive Target
  | provider (name : String)
  | input (name : String)
  | output (name : String)
  | resource (type name : String)
  deriving DecidableEq

/-- What an item declares. -/
def Item.target : Item → Target
  | .provider registered => .provider registered.name
  | .input name _ => .input name
  | .output name _ => .output name
  | .resource type reference => .resource type.name reference.name

/-- What is found in some items declares nothing but what the items do. -/
theorem sublist_map_filterMap {α β γ : Type} {find : α → Option β} {key : β → γ} {target : α → γ}
    (h : ∀ x y, find x = some y → key y = target x) (xs : List α) :
    ((xs.filterMap find).map key).Sublist (xs.map target) := by
  induction xs with
  | nil => exact .slnil
  | cons x rest ih =>
      rw [List.map_cons]
      cases hfind : find x with
      | none =>
          rw [List.filterMap_cons_none hfind]
          exact ih.cons (target x)
      | some y =>
          rw [List.filterMap_cons_some hfind, List.map_cons, h x y hfind]
          exact ih.cons_cons (target x)

namespace History

variable {history other : History}

/-- No two items declare the same thing. -/
def Distinct (history : History) : Prop :=
  (history.map Item.target).Nodup

/-- A type and a name that have been declared are the target of an item. -/
theorem target_of_mem_pairs {type name : String} (h : (type, name) ∈ history.pairs) :
    Target.resource type name ∈ history.map Item.target := by
  obtain ⟨⟨resource, body⟩, hresource, heq⟩ := List.mem_map.mp h
  obtain ⟨item, hitem, hfind⟩ := List.mem_filterMap.mp hresource
  refine List.mem_map.mpr ⟨item, hitem, ?_⟩
  cases item <;> cases hfind
  cases heq
  rfl

/-! ## Nothing is replaced -/

theorem lastRegistrations_of_nodup {registered : List Provider}
    (h : (registered.map (·.name)).Nodup) : lastRegistrations registered = registered := by
  induction registered with
  | nil => rfl
  | cons first rest ih =>
      obtain ⟨hnew, hrest⟩ : first.name ∉ rest.map (·.name) ∧ (rest.map (·.name)).Nodup :=
        List.nodup_cons.mp h
      rw [lastRegistrations, if_neg hnew, ih hrest]

/-- The keys of the items of one kind are distinct. -/
theorem Distinct.nodup_keys (h : history.Distinct) {β : Type} (find : Item → Option β)
    (key : β → String) (kind : String → Target)
    (hfind : ∀ item found, find item = some found → kind (key found) = item.target) :
    ((history.filterMap find).map key).Nodup := by
  have hsublist : ((history.filterMap find).map (kind ∘ key)).Sublist (history.map Item.target) :=
    sublist_map_filterMap hfind history
  have hkinds : (((history.filterMap find).map key).map kind).Nodup := by
    rw [List.map_map]
    exact hsublist.nodup h
  exact hkinds.of_map kind

theorem Distinct.providers_eq (h : history.Distinct) :
    history.providers = history.filterMap Item.provider? := by
  refine lastRegistrations_of_nodup (h.nodup_keys Item.provider? (·.name) .provider ?_)
  intro item provider hprovider
  cases item <;> cases hprovider
  rfl

theorem Distinct.inputs_eq (h : history.Distinct) :
    history.inputs = history.filterMap Item.input? := by
  refine Entries.merged_of_nodup (h.nodup_keys Item.input? Prod.fst .input ?_)
  intro item entry hentry
  cases item <;> cases hentry
  rfl

theorem Distinct.outputs_eq (h : history.Distinct) :
    history.outputs = history.filterMap Item.output? := by
  refine Entries.merged_of_nodup (h.nodup_keys Item.output? Prod.fst .output ?_)
  intro item entry hentry
  cases item <;> cases hentry
  rfl

/-! ## The same items in another order -/

theorem Distinct.of_perm (h : history.Distinct) (hperm : history.Perm other) : other.Distinct :=
  (hperm.map Item.target).nodup_iff.mp h

theorem resources_perm (hperm : history.Perm other) : history.resources.Perm other.resources :=
  hperm.filterMap Item.resource?

theorem bodies_perm (hperm : history.Perm other) : history.bodies.Perm other.bodies :=
  (resources_perm hperm).map _

theorem pairs_perm (hperm : history.Perm other) : history.pairs.Perm other.pairs :=
  (resources_perm hperm).map _

/-- The types come in another order, and within each type the names. -/
theorem sameUpToOrder_grouped (hperm : history.Perm other) :
    Json.SameUpToOrder
      (.object ((Entries.grouped history.bodies).map fun group => (group.1, .object group.2)))
      (.object ((Entries.grouped other.bodies).map fun group => (group.1, .object group.2))) := by
  have hbodies : history.bodies.Perm other.bodies := bodies_perm hperm
  rw [Entries.grouped_eq_map, Entries.grouped_eq_map, List.map_map, List.map_map]
  refine .object (Json.SameValues.map id fun type _ => ?_)
    ((Entries.eraseDups_perm (hbodies.map Prod.fst)).map _)
  exact Json.SameUpToOrder.object_of_perm (Entries.ofGroup_perm hbodies type)

/-- Sections with the same keys, and up to order with the same content. -/
def SameSections : Entries (Entries Json) → Entries (Entries Json) → Prop :=
  List.Forall₂ fun section_ other =>
    section_.1 = other.1 ∧ Json.SameUpToOrder (.object section_.2) (.object other.2)

/-- A section is left out of both documents or of neither. -/
theorem SameSections.sameValues {sections others : Entries (Entries Json)}
    (h : SameSections sections others) :
    Json.SameValues
      ((sections.filter fun entry => !entry.2.isEmpty).map fun entry => (entry.1, .object entry.2))
      ((others.filter fun entry => !entry.2.isEmpty).map
        fun entry => (entry.1, .object entry.2)) := by
  induction h with
  | nil => exact .nil
  | @cons section_ other rest others hsame _ ih =>
      obtain ⟨hkey, hcontent⟩ := hsame
      rw [List.filter_cons, List.filter_cons, ← hcontent.isEmpty_eq]
      split
      · rw [List.map_cons, List.map_cons, ← hkey]
        exact .cons section_.1 hcontent ih
      · exact ih

theorem sameSections_of_perm (h : history.Distinct) (hperm : history.Perm other) :
    SameSections history.sections other.sections := by
  have hother : other.Distinct := h.of_perm hperm
  have hproviders : history.providers.Perm other.providers := by
    rw [h.providers_eq, hother.providers_eq]
    exact hperm.filterMap Item.provider?
  have hinputs : history.inputs.Perm other.inputs := by
    rw [h.inputs_eq, hother.inputs_eq]
    exact hperm.filterMap Item.input?
  have houtputs : history.outputs.Perm other.outputs := by
    rw [h.outputs_eq, hother.outputs_eq]
    exact hperm.filterMap Item.output?
  have hrequirements := hproviders.map fun p => (p.name, p.requirement.toJson)
  refine .cons ⟨rfl, ?_⟩ <| .cons ⟨rfl, ?_⟩ <| .cons ⟨rfl, ?_⟩ <| .cons ⟨rfl, ?_⟩ <|
    .cons ⟨rfl, ?_⟩ .nil
  · -- the requirements stand one level deeper than the other sections
    rw [hrequirements.isEmpty_eq]
    split
    · exact .refl _
    · exact .object_of_sameValues (.cons _ (.object_of_perm hrequirements) .nil)
  · exact .object_of_perm (hproviders.map _)
  · exact .object_of_perm hinputs
  · exact sameUpToOrder_grouped hperm
  · exact .object_of_perm houtputs

/-- **The documents of two histories with the same items are equal up to the order
of keys**, if no two items declare the same thing. -/
theorem document_of_perm (h : history.Distinct) (hperm : history.Perm other) :
    Json.SameUpToOrder history.document other.document :=
  .object_of_sameValues (sameSections_of_perm h hperm).sameValues

end History

end InfraSynth
