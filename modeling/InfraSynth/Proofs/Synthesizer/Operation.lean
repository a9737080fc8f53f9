import InfraSynth.Proofs.Synthesizer.History

/-!
# What one operation does

Each operation of a synthesizer meets the faults that can be foreseen from the
history, in the order in which it looks for them, and otherwise appends its item
to the history.
-/

namespace InfraSynth

open Aws (ResourceType)
open Outcome (Meets fault?)

/-- The synthesizer with one more item, which nothing speaks against. -/
def Synthesizer.store (synth : Synthesizer) : Item → Synthesizer
  | .provider provider => synth.addProvider provider
  | .input name input =>
    { synth with inputs := Entries.insert synth.inputs name input.toBlock.toJson }
  | .output name output =>
    { synth with outputs := Entries.insert synth.outputs name output.toBlock.toJson }
  | .resource _ reference => synth.insert reference

namespace History

variable {history : History} {synth : Synthesizer}

/-- A resource of the type and name has been declared before. -/
def duplicateFault (history : History) (type name : String) : Option Error :=
  if history.pairs.contains (type, name) then
    some (.duplicateResource (Interpolation.address type name))
  else none

namespace Describes

theorem empty : Describes [] .empty where
  providers := rfl
  inputs := rfl
  outputs := rfl
  resources := rfl
  declared := rfl
  nodup_pairs := .nil
  allowed := by simp

/-- Storing an item whose name is allowed and whose type and name are new. -/
theorem store (h : history.Describes synth) (item : Item) (hname : item.HasAllowedName)
    (hnew : ∀ resource ∈ item.resource?, (resource.1.type, resource.1.name) ∉ history.pairs) :
    Describes (history ++ [item]) (synth.store item) where
  providers := by
    rw [providers_append_singleton, ← h.providers]
    cases item <;> rfl
  inputs := by
    rw [inputs_append_singleton, ← h.inputs]
    cases item <;> rfl
  outputs := by
    rw [outputs_append_singleton, ← h.outputs]
    cases item <;> rfl
  resources := by
    rw [bodies, resources_append_singleton]
    cases item with
    | provider | input | output => exact h.resources
    | resource type reference =>
        -- within its type the name is new, so the body goes to the end
        have hkey : reference.name ∉ Entries.keys (Entries.ofGroup history.bodies type.name) := by
          rw [Entries.mem_keys_ofGroup_iff, map_bodies]
          exact hnew _ rfl
        simp only [Item.resource?, List.map_append, List.map_singleton]
        refine Eq.trans ?_ (Entries.grouped_append_singleton hkey).symm
        rw [Synthesizer.store, Synthesizer.insert, Synthesizer.ofType, h.resources]
        rfl
  declared := by
    rw [resources_append_singleton]
    cases item with
    | provider | input | output => exact h.declared
    | resource type reference =>
        rw [Synthesizer.store, Synthesizer.insert, h.declared, Item.resource?, List.map_append]
        rfl
  nodup_pairs := by
    rw [pairs, resources_append_singleton]
    cases item with
    | provider | input | output => exact h.nodup_pairs
    | resource type reference =>
        simp only [Item.resource?, List.map_append, List.map_singleton]
        refine List.nodup_append.mpr ⟨h.nodup_pairs, by simp, ?_⟩
        intro pair hpair last hlast heq
        rw [heq, List.mem_singleton.mp hlast] at hpair
        exact hnew _ rfl hpair
  allowed := by
    simpa [or_imp, forall_and, hname] using h.allowed

/-! ## Operations -/

theorem addProvider (h : history.Describes synth) (provider : Provider) :
    Describes (history ++ [.provider provider]) (synth.addProvider provider) :=
  h.store (.provider provider) trivial nofun

theorem addVariable (h : history.Describes synth) (name : String) (input : Variable) :
    Meets (synth.addVariable name input) (fault? (Name.check name))
      (Describes (history ++ [.input name input])) :=
  Meets.self.bind_pure fun _ hcheck =>
    h.store (.input name input) (Name.check_eq_ok_iff.mp hcheck) nofun

theorem addOutput (h : history.Describes synth) (name : String) (output : Output) :
    Meets (synth.addOutput name output) (fault? (Name.check name))
      (Describes (history ++ [.output name output])) :=
  Meets.self.bind_pure fun _ hcheck =>
    h.store (.output name output) (Name.check_eq_ok_iff.mp hcheck) nofun

/-- A declaration looks at the name, then at the attributes, and then at what has
been declared. -/
theorem declare (h : history.Describes synth) {type : ResourceType} (name : String)
    (attributes : type.Attributes) :
    Meets (synth.declare name attributes).result
      ((fault? (Name.check name)).or
        ((fault? (Resource.validate attributes)).or (history.duplicateFault type.name name)))
      fun (next, reference) => reference = ⟨name, attributes⟩ ∧
        Describes (history ++ [.resource type ⟨name, attributes⟩]) next := by
  rw [Synthesizer.declare]
  simp only [Logged.result_bind, Logged.result_ofExcept, Logged.result_warn, Outcome.ok_bind]
  refine Meets.self.bind fun _ hcheck => ?_
  refine Meets.self.bind fun _ _ => ?_
  -- what has been declared is looked up in the bodies, and the history lists the same pairs
  have hcontains : synth.contains (Resource.typeName type.Attributes) name = true ↔
      (type.name, name) ∈ history.pairs := h.contains_iff
  rw [duplicateFault]
  simp only [List.contains_iff_mem]
  by_cases hpair : (type.name, name) ∈ history.pairs
  · rw [if_pos hpair, if_pos (hcontains.mpr hpair)]
    rfl
  · rw [if_neg hpair, if_neg fun hmem => hpair (hcontains.mp hmem)]
    refine ⟨_, rfl, rfl, h.store _ (Name.check_eq_ok_iff.mp hcheck) ?_⟩
    intro resource hresource
    obtain rfl := Option.mem_some.mp hresource
    exact hpair

end Describes

theorem declareValue_result {α : Type} [Resource α] {name : String} {value : Json} :
    (synth.declareValue (α := α) name value).result =
      Resource.ofJson value >>= fun attributes : α => (synth.declare name attributes).result := by
  simp only [Synthesizer.declareValue, Resource.ofJson, Logged.result_bind, Logged.result_ofExcept,
    Logged.result_warn, Outcome.ok_bind]
  cases (Resource.decode value : Except Error α) with
  | error error => rfl
  | ok attributes =>
      simp only [Outcome.ok_bind]
      cases Resource.validate attributes <;> rfl

namespace Describes

/-- A declaration with a value looks at the attributes first. -/
theorem declareValue (h : history.Describes synth) (type : ResourceType) (name : String)
    (value : Json) :
    Meets (synth.declareValue (α := type.Attributes) name value).result
      ((fault? (Resource.ofJson value : Except Error type.Attributes)).or
        ((fault? (Name.check name)).or (history.duplicateFault type.name name)))
      fun (next, reference) => ∃ attributes, Resource.ofJson value = .ok attributes ∧
        reference = ⟨name, attributes⟩ ∧
        Describes (history ++ [.resource type ⟨name, attributes⟩]) next := by
  rw [declareValue_result]
  refine Meets.self.bind fun attributes hread => ?_
  -- the attributes are checked a second time, which changes nothing
  have hvalid : fault? (Resource.validate attributes) = none := by
    rw [Resource.validate_eq_ok_iff.mpr (Resource.ofJson_eq_ok_iff.mp hread).2]
    rfl
  have hdeclare := h.declare name attributes
  rw [hvalid, Option.none_or] at hdeclare
  exact hdeclare.mono fun _ ⟨hreference, hnext⟩ => ⟨attributes, hread, hreference, hnext⟩

end Describes

/-- What keeps a declaration by the name of its type from being accepted: the
type is not known, the attributes cannot be read or have violations, the name is
not allowed, or type and name have been declared before. -/
def declarationFault (history : History) (registry : Registry) (type name : String)
    (value : Json) : Option Error :=
  match registry.get? type with
  | none => some (.unknownType type)
  | some known =>
    (fault? (Resource.ofJson value : Except Error known.Attributes)).or
      ((fault? (Name.check name)).or (history.duplicateFault known.name name))

/-- A declaration by the name of its type looks at that name first. -/
theorem Describes.declareNamed (h : history.Describes synth) (registry : Registry)
    (type name : String) (value : Json) :
    Meets (registry.declare synth type name value).result
      (history.declarationFault registry type name value)
      fun (next, summary) => ∃ (known : ResourceType) (attributes : known.Attributes),
        registry.get? type = some known ∧ Resource.ofJson value = .ok attributes ∧
        summary = Reference.summary ⟨name, attributes⟩ ∧
        Describes (history ++ [.resource known ⟨name, attributes⟩]) next := by
  rw [Registry.declare, declarationFault]
  cases hknown : registry.get? type with
  | none => rfl
  | some known =>
      simp only [Logged.result_bind]
      refine (h.declareValue known name value).bind_pure ?_
      rintro ⟨next, reference⟩ ⟨attributes, hread, rfl, hnext⟩
      exact ⟨known, attributes, rfl, hread, rfl, hnext⟩

end History

end InfraSynth
