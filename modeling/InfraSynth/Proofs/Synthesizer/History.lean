import InfraSynth.Proofs.Collection
import InfraSynth.Proofs.Name
import InfraSynth.Proofs.Outcome
import InfraSynth.Proofs.Resource
import InfraSynth.Registry

/-!
# What a synthesizer has been told

A history lists what has been declared, one item after the other.  It says what
the synthesizer holds, without replacing or inserting anything:
`History.document` is put together from the items themselves.

## Strategy

`History.Describes` relates a history to the four stores of a synthesizer and to
its list of declared resources.  It holds at the beginning.  Each operation then
fails as can be foreseen from the history, or the history with one more item
describes the synthesizer after it; `Outcome.Meets` says so for each of them.
-/

namespace InfraSynth

open Aws (ResourceType)
open Outcome (Meets fault?)

/-- What is declared by one call that is accepted. -/
inductive Item
  | provider (provider : Provider)
  | input (name : String) (input : Variable)
  | output (name : String) (output : Output)
  | resource (type : ResourceType) (reference : Reference type.Attributes)

namespace Item

/-- The provider, if the item is one. -/
def provider? : Item → Option Provider
  | .provider registered => some registered
  | _ => none

/-- The name and body of a variable. -/
def input? : Item → Option (String × Json)
  | .input name body => some (name, body.toBlock.toJson)
  | _ => none

/-- The name and body of an output. -/
def output? : Item → Option (String × Json)
  | .output name body => some (name, body.toBlock.toJson)
  | _ => none

/-- What is kept of a resource, and its body. -/
def resource? : Item → Option (DeclaredResource × Json)
  | .resource _ reference =>
    some (reference.summary, (Resource.block reference.attributes).toJson)
  | _ => none

/-- The name of a variable, an output or a resource is allowed. -/
def HasAllowedName : Item → Prop
  | .provider _ => True
  | .input name _ | .output name _ => Name.IsAllowed name
  | .resource _ reference => Name.IsAllowed reference.name

end Item

/-- What has been declared, in order. -/
abbrev History := List Item

namespace History

/-- The providers that no later one of the same name replaces. -/
def lastRegistrations : List Provider → List Provider
  | [] => []
  | provider :: later =>
    if provider.name ∈ later.map (·.name) then lastRegistrations later
    else provider :: lastRegistrations later

/-- The providers, each at the place of its last registration. -/
def providers (history : History) : List Provider :=
  lastRegistrations (history.filterMap Item.provider?)

/-- The bodies of the variables, each at the place of its first definition and
with the value of its last. -/
def inputs (history : History) : Entries Json :=
  Entries.merged (history.filterMap Item.input?)

/-- The bodies of the outputs, in the same manner. -/
def outputs (history : History) : Entries Json :=
  Entries.merged (history.filterMap Item.output?)

/-- The resources with their bodies. -/
def resources (history : History) : List (DeclaredResource × Json) :=
  history.filterMap Item.resource?

/-- The types, names and bodies of the resources. -/
def bodies (history : History) : List (String × String × Json) :=
  history.resources.map fun (resource, body) => (resource.type, resource.name, body)

/-- The types and names of the resources. -/
def pairs (history : History) : List (String × String) :=
  history.resources.map fun (resource, _) => (resource.type, resource.name)

/-- All sections that a document may have, in order. -/
def sections (history : History) : Entries (Entries Json) :=
  let requirements := history.providers.map fun p => (p.name, p.requirement.toJson)
  let settings := history.providers.map fun p => (p.name, p.settings.toJson)
  [("terraform", if requirements.isEmpty then [] else [("required_providers", .object requirements)]),
    ("provider", settings),
    ("variable", history.inputs),
    ("resource", (Entries.grouped history.bodies).map fun group => (group.1, .object group.2)),
    ("output", history.outputs)]

/-- The document: the sections that are not empty. -/
def document (history : History) : Json :=
  .object ((history.sections.filter fun entry => !entry.2.isEmpty).map
    fun entry => (entry.1, .object entry.2))

/-- The history describes what a synthesizer holds. -/
structure Describes (history : History) (synth : Synthesizer) : Prop where
  providers : synth.providers = history.providers
  inputs : synth.inputs = history.inputs
  outputs : synth.outputs = history.outputs
  resources : synth.resources = Entries.grouped history.bodies
  declared : synth.declared = history.resources.map Prod.fst
  nodup_pairs : history.pairs.Nodup
  allowed : ∀ item ∈ history, item.HasAllowedName

variable {history : History} {synth : Synthesizer}

theorem map_bodies : history.bodies.map (fun (type, name, _) => (type, name)) = history.pairs := by
  simp [bodies, pairs]

/-! ## Providers that stay -/

theorem lastRegistrations_append_singleton (registered : List Provider) (provider : Provider) :
    lastRegistrations (registered ++ [provider]) =
      (lastRegistrations registered).filter (·.name ≠ provider.name) ++ [provider] := by
  induction registered with
  | nil => simp [lastRegistrations]
  | cons first rest ih =>
      by_cases hrest : first.name ∈ rest.map (·.name)
      · -- the first one is replaced already
        have hmem : first.name ∈ (rest ++ [provider]).map (·.name) := by
          rw [List.map_append]
          exact List.mem_append_left _ hrest
        rw [List.cons_append, lastRegistrations, if_pos hmem, ih, lastRegistrations, if_pos hrest]
      · by_cases hname : first.name = provider.name
        · -- it is the new one that replaces it
          have hmem : first.name ∈ (rest ++ [provider]).map (·.name) := by simp [hname]
          rw [List.cons_append, lastRegistrations, if_pos hmem, ih, lastRegistrations, if_neg hrest,
            List.filter_cons_of_neg (by simp [hname])]
        · have hmem : first.name ∉ (rest ++ [provider]).map (·.name) := by
            simpa [hname] using hrest
          rw [List.cons_append, lastRegistrations, if_neg hmem, ih, lastRegistrations, if_neg hrest,
            List.filter_cons_of_pos (by simp [hname]), List.cons_append]

theorem sublist_lastRegistrations (registered : List Provider) :
    (lastRegistrations registered).Sublist registered := by
  induction registered with
  | nil => exact .slnil
  | cons first rest ih =>
      rw [lastRegistrations]
      split
      · exact ih.cons first
      · exact ih.cons_cons first

theorem nodup_names_lastRegistrations (registered : List Provider) :
    ((lastRegistrations registered).map (·.name)).Nodup := by
  induction registered with
  | nil => simp [lastRegistrations]
  | cons first rest ih =>
      rw [lastRegistrations]
      split
      · exact ih
      · rename_i hnew
        refine List.nodup_cons.mpr ⟨fun hmem => hnew ?_, ih⟩
        exact List.Sublist.subset ((sublist_lastRegistrations rest).map _) hmem

/-! ## One more item -/

theorem filterMap_append_singleton {α β : Type} (f : α → Option β) (xs : List α) (x : α) :
    (xs ++ [x]).filterMap f =
      match f x with
      | some y => xs.filterMap f ++ [y]
      | none => xs.filterMap f := by
  cases hx : f x <;> simp [hx]

theorem providers_append_singleton (item : Item) :
    History.providers (history ++ [item]) =
      match item.provider? with
      | some provider => history.providers.filter (·.name ≠ provider.name) ++ [provider]
      | none => history.providers := by
  rw [providers, filterMap_append_singleton]
  cases item.provider? with
  | some provider => exact lastRegistrations_append_singleton _ _
  | none => rfl

theorem inputs_append_singleton (item : Item) :
    History.inputs (history ++ [item]) =
      match item.input? with
      | some (name, body) => Entries.insert history.inputs name body
      | none => history.inputs := by
  rw [inputs, filterMap_append_singleton]
  cases item.input? with
  | some entry => exact Entries.merged_append_singleton _
  | none => rfl

theorem outputs_append_singleton (item : Item) :
    History.outputs (history ++ [item]) =
      match item.output? with
      | some (name, body) => Entries.insert history.outputs name body
      | none => history.outputs := by
  rw [outputs, filterMap_append_singleton]
  cases item.output? with
  | some entry => exact Entries.merged_append_singleton _
  | none => rfl

theorem resources_append_singleton (item : Item) :
    History.resources (history ++ [item]) =
      match item.resource? with
      | some resource => history.resources ++ [resource]
      | none => history.resources := by
  rw [resources, filterMap_append_singleton]
  cases item.resource? <;> rfl

/-! ## What can be observed -/

namespace Describes

theorem ofType (h : history.Describes synth) (type : String) :
    synth.ofType type = Entries.ofGroup history.bodies type := by
  rw [Synthesizer.ofType, h.resources, Entries.getD_get?_grouped]

theorem resource?_eq_some_iff (h : history.Describes synth) {type name : String} {body : Json} :
    synth.resource? type name = some body ↔ (type, name, body) ∈ history.bodies := by
  have hnodup : (Entries.keys (Entries.ofGroup history.bodies type)).Nodup :=
    Entries.nodup_keys_ofGroup (map_bodies ▸ h.nodup_pairs)
  calc synth.resource? type name = some body
      ↔ Entries.get? (Entries.ofGroup history.bodies type) name = some body := by
        rw [Synthesizer.resource?, h.ofType]
    _ ↔ (name, body) ∈ Entries.ofGroup history.bodies type := Entries.get?_eq_some_iff hnodup
    _ ↔ (type, name, body) ∈ history.bodies := Entries.mem_ofGroup_iff

theorem contains_iff (h : history.Describes synth) {type name : String} :
    synth.contains type name = true ↔ (type, name) ∈ history.pairs := by
  calc synth.contains type name = true
      ↔ name ∈ Entries.keys (Entries.ofGroup history.bodies type) := by
        rw [Synthesizer.contains, Synthesizer.resource?, h.ofType, Entries.isSome_get?_iff]
    _ ↔ (type, name) ∈ history.pairs := by rw [Entries.mem_keys_ofGroup_iff, map_bodies]

end Describes

end History

end InfraSynth
