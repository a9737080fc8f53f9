import InfraSynth.Proofs.Synthesizer.Run

/-!
# Calls that change a synthesizer in place

A program keeps one synthesizer and calls it again and again.  Each operation then
changes the synthesizer step by step, and an error ends it at the step where it
arises, with everything changed that the steps before have changed.
`Synthesizer.InPlace` carries the operations out in this manner.  In particular a
declaration makes room for its type before it finds that the name is taken.

Nothing of this is left behind: a call that is turned down leaves the synthesizer
as it was, `Call.observed_of_error`.

## Strategy

An operation in place gives what the operation on values gives, together with the
synthesizer that this one returns, or with the old one in case of an error:
`settle`, with one lemma for each operation.  Room for a type is the only change
that an error can follow, and where a name is taken there has been room before,
`openType_of_contains`.
-/

namespace InfraSynth

open Aws (ResourceType)

namespace Synthesizer

/-- An operation on a synthesizer that is changed in place. -/
abbrev InPlace (α : Type) := EStateM Error Synthesizer α

/-- Make room for the resources of a type, unless there is some. -/
def openType (synth : Synthesizer) (type : String) : Synthesizer :=
  if Entries.contains synth.resources type then synth
  else { synth with resources := Entries.insert synth.resources type [] }

namespace InPlace

variable {α : Type}

/-- Declare a provider: drop the one of that name, and add the new one. -/
def addProvider (provider : Provider) : InPlace Unit := do
  modify fun synth =>
    { synth with providers := synth.providers.filter (·.name ≠ provider.name) }
  modify fun synth => { synth with providers := synth.providers ++ [provider] }

/-- Declare a variable. -/
def addVariable (name : String) (input : Variable) : InPlace Unit := do
  MonadExcept.ofExcept (Name.check name)
  modify fun synth =>
    { synth with inputs := Entries.insert synth.inputs name input.toBlock.toJson }

/-- Declare an output. -/
def addOutput (name : String) (output : Output) : InPlace Unit := do
  MonadExcept.ofExcept (Name.check name)
  modify fun synth =>
    { synth with outputs := Entries.insert synth.outputs name output.toBlock.toJson }

/-- Put in a resource whose name and attributes are good: make room for its type,
look whether the name is taken there, and add its body. -/
def put [Resource α] (reference : Reference α) : InPlace (Reference α) := do
  let type := Resource.typeName α
  modify fun synth => synth.openType type
  if (← get).contains type reference.name then throw (.duplicateResource reference.address)
  let body := (Resource.block reference.attributes).toJson
  modify fun synth =>
    let byName := Entries.insert (synth.ofType type) reference.name body
    { synth with resources := Entries.insert synth.resources type byName }
  modify fun synth => { synth with declared := synth.declared ++ [reference.summary] }
  return reference

/-- Declare a resource with given attributes. -/
def declare [Resource α] (name : String) (attributes : α) : InPlace (Reference α) := do
  MonadExcept.ofExcept (Name.check name)
  MonadExcept.ofExcept (Resource.validate attributes)
  put ⟨name, attributes⟩

/-- Declare a resource whose attributes are given as a JSON value. -/
def declareValue [Resource α] (name : String) (value : Json) : InPlace (Reference α) := do
  let attributes : α ← MonadExcept.ofExcept (Resource.ofJson value)
  declare name attributes

/-- Declare a resource by the name of its type. -/
def declareNamed (registry : Registry) (type name : String) (value : Json) :
    InPlace DeclaredResource := do
  match registry.get? type with
  | none => throw (.unknownType type)
  | some known =>
    let reference ← declareValue (α := known.Attributes) name value
    return reference.summary

end InPlace

variable {α β : Type} {synth : Synthesizer}

/-! ## Making room for a type -/

theorem openType_of_contains {type name : String} (h : synth.contains type name = true) :
    synth.openType type = synth := by
  have hroom : Entries.contains synth.resources type = true := by
    rw [contains, resource?, ofType] at h
    cases hget : Entries.get? synth.resources type with
    | none =>
        rw [hget] at h
        contradiction
    | some byName => simp [Entries.contains, hget]
  rw [openType, if_pos hroom]

/-- Room for a type holds no resources. -/
theorem ofType_openType (type other : String) :
    (synth.openType type).ofType other = synth.ofType other := by
  unfold openType
  split
  · rfl
  · rename_i hnone
    have hget : Entries.get? synth.resources type = none := by
      simpa [Entries.contains] using hnone
    rw [ofType, ofType, Entries.get?_insert]
    by_cases hother : type = other
    · rw [if_pos hother, ← hother, hget]
      rfl
    · rw [if_neg hother]

theorem contains_openType (type other name : String) :
    (synth.openType type).contains other name = synth.contains other name := by
  rw [contains, contains, resource?, resource?, ofType_openType]

/-- A resource goes in just as well if there has been no room for its type. -/
theorem insert_openType [Resource α] (reference : Reference α) :
    (synth.openType (Resource.typeName α)).insert reference = synth.insert reference := by
  simp only [insert, ofType_openType]
  unfold openType
  split
  · rfl
  · rw [Entries.insert_insert]

/-! ## What the operations give -/

/-- The result of an operation in place that does what an operation on values
does: in case of an error the synthesizer stays as it was. -/
def settle (synth : Synthesizer) :
    Except Error (Synthesizer × α) → EStateM.Result Error Synthesizer α
  | .ok (next, value) => .ok value next
  | .error error => .error error synth

namespace InPlace

/-- A step that only looks at the value given does not touch the synthesizer. -/
theorem settle_map {operation : InPlace α} {result : Except Error (Synthesizer × α)}
    (f : α → β) (h : operation.run synth = settle synth result) :
    (do return f (← operation) : InPlace β).run synth =
      settle synth (result.map fun (next, value) => (next, f value)) := by
  rw [EStateM.run_bind, h]
  cases result <;> rfl

theorem addProvider_eq (provider : Provider) :
    (addProvider provider).run synth = settle synth (.ok (synth.addProvider provider, ())) :=
  rfl

theorem addVariable_eq (name : String) (input : Variable) :
    (addVariable name input).run synth =
      settle synth ((synth.addVariable name input).map (·, ())) := by
  unfold addVariable Synthesizer.addVariable
  cases Name.check name <;> rfl

theorem addOutput_eq (name : String) (output : Output) :
    (addOutput name output).run synth =
      settle synth ((synth.addOutput name output).map (·, ())) := by
  unfold addOutput Synthesizer.addOutput
  cases Name.check name <;> rfl

/-- Where `put` ends, seen from the synthesizer after room has been made. -/
theorem put_run [Resource α] (reference : Reference α) :
    (put reference).run synth =
      if (synth.openType (Resource.typeName α)).contains (Resource.typeName α) reference.name then
        .error (.duplicateResource reference.address) (synth.openType (Resource.typeName α))
      else .ok reference ((synth.openType (Resource.typeName α)).insert reference) := by
  unfold put
  simp only [EStateM.run_bind, EStateM.run_modify, EStateM.run_get]
  split
  · rw [EStateM.run_bind, EStateM.run_throw]
  · simp only [EStateM.run_bind, EStateM.run_modify, EStateM.run_pure]
    rfl

/-- A resource goes in unless its name is taken, and then there has been room for
its type already. -/
theorem put_eq [Resource α] (reference : Reference α) :
    (put reference).run synth = settle synth
      (if synth.contains (Resource.typeName α) reference.name then
        .error (.duplicateResource reference.address)
      else .ok (synth.insert reference, reference)) := by
  rw [put_run, contains_openType]
  by_cases htaken : synth.contains (Resource.typeName α) reference.name = true
  · have hroom : synth.openType (Resource.typeName α) = synth := openType_of_contains htaken
    rw [if_pos htaken, if_pos htaken, hroom]
    rfl
  · rw [if_neg htaken, if_neg htaken, insert_openType]
    rfl

theorem declare_eq [Resource α] (name : String) (attributes : α) :
    (declare name attributes).run synth = settle synth (synth.declare name attributes).result := by
  unfold declare Synthesizer.declare
  simp only [Logged.result_bind, Logged.result_ofExcept, Logged.result_warn, Outcome.ok_bind]
  cases Name.check name with
  | error error => rfl
  | ok =>
      cases Resource.validate attributes with
      | error error => rfl
      | ok =>
          refine (put_eq ⟨name, attributes⟩).trans (congrArg (settle synth) ?_)
          simp only [Outcome.ok_bind]
          split <;> rfl

theorem declareValue_eq [Resource α] (name : String) (value : Json) :
    (declareValue (α := α) name value).run synth =
      settle synth (synth.declareValue (α := α) name value).result := by
  rw [History.declareValue_result, declareValue]
  cases (Resource.ofJson value : Except Error α) with
  | error error => rfl
  | ok attributes => exact declare_eq name attributes

theorem declareNamed_eq (registry : Registry) (type name : String) (value : Json) :
    (declareNamed registry type name value).run synth =
      settle synth (registry.declare synth type name value).result := by
  unfold declareNamed Registry.declare
  cases registry.get? type with
  | none => rfl
  | some known =>
      simp only [Logged.result_bind]
      refine (settle_map Reference.summary (declareValue_eq name value)).trans (congrArg _ ?_)
      cases (synth.declareValue (α := known.Attributes) name value).result <;> rfl

end InPlace

end Synthesizer

/-! ## Calls -/

namespace Call

open Synthesizer (InPlace settle)

/-- What a call gives: the synthesizer after it, and what is kept of the resource
if it declares one. -/
def outcome (synth : Synthesizer) : Call → Except Error (Synthesizer × Option DeclaredResource)
  | addProvider provider => .ok (synth.addProvider provider, none)
  | addVariable name input => (synth.addVariable name input).map (·, none)
  | addOutput name output => (synth.addOutput name output).map (·, none)
  | declare _ name attributes =>
    (synth.declare name attributes).result.map fun (next, reference) =>
      (next, some reference.summary)
  | declareValue type name value =>
    (synth.declareValue (α := type.Attributes) name value).result.map fun (next, reference) =>
      (next, some reference.summary)
  | declareNamed registry type name value =>
    (registry.declare synth type name value).result.map fun (next, summary) => (next, some summary)

/-- Carry out the call in place. -/
def carryOut : Call → InPlace (Option DeclaredResource)
  | addProvider provider => do
    InPlace.addProvider provider
    return none
  | addVariable name input => do
    InPlace.addVariable name input
    return none
  | addOutput name output => do
    InPlace.addOutput name output
    return none
  | declare _ name attributes => do
    let reference ← InPlace.declare name attributes
    return some reference.summary
  | declareValue type name value => do
    let reference ← InPlace.declareValue (α := type.Attributes) name value
    return some reference.summary
  | declareNamed registry type name value => do
    let summary ← InPlace.declareNamed registry type name value
    return some summary

variable {synth left : Synthesizer} {error : Error}

theorem perform_eq (call : Call) : call.perform synth = (call.outcome synth).map Prod.fst := by
  cases call with
  | addProvider provider => rfl
  | addVariable | addOutput =>
      rw [perform, outcome, Outcome.map_map]
      exact Outcome.map_self.symm
  | declare | declareValue | declareNamed => rw [perform, outcome, Outcome.map_map]

/-- A call in place gives what it gives on values. -/
theorem carryOut_eq (call : Call) :
    call.carryOut.run synth = settle synth (call.outcome synth) := by
  cases call with
  | addProvider provider => exact InPlace.settle_map _ (InPlace.addProvider_eq provider)
  | addVariable name input =>
      rw [outcome]
      exact (InPlace.settle_map _ (InPlace.addVariable_eq name input)).trans
        (congrArg _ Outcome.map_map)
  | addOutput name output =>
      rw [outcome]
      exact (InPlace.settle_map _ (InPlace.addOutput_eq name output)).trans
        (congrArg _ Outcome.map_map)
  | declare type name attributes =>
      exact InPlace.settle_map _ (InPlace.declare_eq name attributes)
  | declareValue type name value =>
      exact InPlace.settle_map _ (InPlace.declareValue_eq name value)
  | declareNamed registry type name value =>
      exact InPlace.settle_map _ (InPlace.declareNamed_eq registry type name value)

/-- **A call that is turned down leaves nothing behind.**  It is turned down just
if it is on values, and then the document with the order of its keys, the list of
what is declared and every resource are what they were. -/
theorem observed_of_error {call : Call} (h : call.carryOut.run synth = .error error left) :
    call.perform synth = .error error ∧ left.document = synth.document ∧
      left.declared = synth.declared ∧ left.resourceCount = synth.resourceCount ∧
      ∀ type name, left.contains type name = synth.contains type name ∧
        left.resource? type name = synth.resource? type name := by
  rw [carryOut_eq] at h
  rw [perform_eq]
  cases houtcome : call.outcome synth with
  | ok given =>
      rw [houtcome] at h
      cases h
  | error found =>
      rw [houtcome] at h
      cases h
      exact ⟨rfl, rfl, rfl, rfl, fun _ _ => ⟨rfl, rfl⟩⟩

/-- The declaration of a network. -/
def mainNetwork : Call :=
  .declare .vpc "main" (.ofBlock "10.0.0.0/16")

/-- The network is turned down where it has been declared. -/
theorem observed_mainNetwork_twice :
    let synth := Synthesizer.run .empty [mainNetwork]
    ∃ left, mainNetwork.carryOut.run synth = .error (.duplicateResource "aws_vpc.main") left ∧
      left.document = synth.document ∧ left.declared = synth.declared ∧
      synth.resourceCount = 1 ∧ left.resourceCount = 1 := by
  intro synth
  have htwice : mainNetwork.carryOut.run synth =
      .error (.duplicateResource "aws_vpc.main") synth := by rfl
  obtain ⟨-, hdocument, hdeclared, hcount, -⟩ := observed_of_error htwice
  exact ⟨synth, htwice, hdocument, hdeclared, rfl, hcount⟩

end Call

end InfraSynth
