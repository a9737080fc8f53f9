import InfraSynth.Proofs.Synthesizer.InPlace
import InfraSynth.Proofs.Synthesizer.Permutation

/-!
# The order of calls

Calls that declare different things may come in any order: each of them gives the
same answer, and what can be observed in the end differs only in the order of keys
and of what has been declared, `Synthesizer.observed_of_perm`.

## Strategy

A call is carried out in two steps.  What it wants to declare follows from the
call alone, `Call.prepare`; then the item is stored, unless it is a resource whose
type and name are taken, `Call.outcome_eq`.  If the calls declare different things
the second step never fails: each call gives what it prepares, and that goes on the
history, `History.Describes.callAfter`.  So by induction the synthesizer in the end
is described by what the calls prepare, in the order of the calls,
`History.Describes.runDistinct`.  Another order of the calls gives the same items in
another order.
-/

namespace InfraSynth

open Aws (ResourceType)

/-- The registries that there are: types become known one after the other. -/
inductive Registry.Built : Registry → Prop
  | empty : Built .empty
  | register {registry : Registry} (h : Built registry) (type : ResourceType) :
    Built (registry.register type)

namespace Registry.Built

variable {registry : Registry}

/-- A type is known under its own name. -/
theorem name_eq (h : registry.Built) {type : String} {known : ResourceType}
    (hknown : registry.get? type = some known) : known.name = type := by
  induction h with
  | empty => cases hknown
  | register h registered ih =>
      rw [Registry.register, SortedMap.get?, SortedMap.insert, SortedMap.get?_place] at hknown
      split at hknown
      · rename_i hname
        cases hknown
        exact hname
      · exact ih hknown

theorem foldl (h : registry.Built) (types : List ResourceType) :
    Built (types.foldl Registry.register registry) := by
  induction types generalizing registry with
  | nil => exact h
  | cons type rest ih => exact ih (h.register type)

theorem aws : Registry.aws.Built :=
  empty.foldl ResourceType.all

end Registry.Built

/-! ## What a call wants to declare -/

/-- What is kept of the resource that an item declares. -/
def Item.summary? (item : Item) : Option DeclaredResource :=
  item.resource?.map Prod.fst

namespace Call

/-- What a call declares. -/
def target : Call → Target
  | addProvider provider => .provider provider.name
  | addVariable name _ => .input name
  | addOutput name _ => .output name
  | declare type name _ | declareValue type name _ => .resource type.name name
  | declareNamed _ type name _ => .resource type name

/-- The registry of the call, if it uses one, is one that can be built. -/
def UsesBuilt : Call → Prop
  | declareNamed registry _ _ _ => registry.Built
  | _ => True

/-- A resource that nothing is wrong with. -/
def prepareResource (type : ResourceType) (name : String) (attributes : type.Attributes) :
    Except Error Item := do
  Name.check name
  Resource.validate attributes
  return .resource type ⟨name, attributes⟩

/-- A resource whose attributes are given as a JSON value. -/
def prepareValue (type : ResourceType) (name : String) (value : Json) : Except Error Item := do
  let attributes : type.Attributes ← Resource.ofJson value
  prepareResource type name attributes

/-- The item that the call declares, unless something is wrong with the call
itself. -/
def prepare : Call → Except Error Item
  | addProvider provider => .ok (.provider provider)
  | addVariable name input => do
    Name.check name
    return .input name input
  | addOutput name output => do
    Name.check name
    return .output name output
  | declare type name attributes => prepareResource type name attributes
  | declareValue type name value => prepareValue type name value
  | declareNamed registry type name value =>
    match registry.get? type with
    | none => .error (.unknownType type)
    | some known => prepareValue known name value

variable {call : Call} {item : Item}

theorem prepareResource_eq_ok {type : ResourceType} {name : String} {attributes : type.Attributes}
    (h : prepareResource type name attributes = .ok item) :
    item = .resource type ⟨name, attributes⟩ ∧ Name.IsAllowed name := by
  obtain ⟨_, hname, h⟩ := Outcome.bind_eq_ok_iff.mp h
  obtain ⟨_, -, h⟩ := Outcome.bind_eq_ok_iff.mp h
  cases h
  exact ⟨rfl, Name.check_eq_ok_iff.mp hname⟩

theorem prepareValue_eq_ok {type : ResourceType} {name : String} {value : Json}
    (h : prepareValue type name value = .ok item) :
    item.target = .resource type.name name ∧ item.HasAllowedName := by
  obtain ⟨attributes, -, h⟩ := Outcome.bind_eq_ok_iff.mp h
  obtain ⟨rfl, hname⟩ := prepareResource_eq_ok h
  exact ⟨rfl, hname⟩

/-- What a call prepares is what it declares, and its name is allowed. -/
theorem prepare_eq_ok (hbuilt : call.UsesBuilt) (h : call.prepare = .ok item) :
    item.target = call.target ∧ item.HasAllowedName := by
  cases call with
  | addProvider provider =>
      cases h
      exact ⟨rfl, trivial⟩
  | addVariable name input | addOutput name output =>
      obtain ⟨_, hname, h⟩ := Outcome.bind_eq_ok_iff.mp h
      cases h
      exact ⟨rfl, Name.check_eq_ok_iff.mp hname⟩
  | declare type name attributes =>
      obtain ⟨rfl, hname⟩ := prepareResource_eq_ok h
      exact ⟨rfl, hname⟩
  | declareValue type name value => exact prepareValue_eq_ok h
  | declareNamed registry type name value =>
      rw [prepare] at h
      cases hknown : registry.get? type with
      | none =>
          rw [hknown] at h
          contradiction
      | some known =>
          rw [hknown] at h
          rw [target, ← Registry.Built.name_eq hbuilt hknown]
          exact prepareValue_eq_ok h

end Call

/-! ## Storing it -/

namespace Synthesizer

variable {synth : Synthesizer}

/-- Store an item, unless it is a resource whose type and name are taken. -/
def accept (synth : Synthesizer) : Item → Except Error (Synthesizer × Option DeclaredResource)
  | .resource type reference =>
    if synth.contains type.name reference.name then .error (.duplicateResource reference.address)
    else .ok (synth.store (.resource type reference), some reference.summary)
  | item => .ok (synth.store item, none)

/-- A declaration is prepared, and then accepted or not. -/
theorem declare_eq_accept (type : ResourceType) (name : String) (attributes : type.Attributes) :
    ((synth.declare name attributes).result.map fun (next, reference) =>
        (next, some reference.summary)) =
      Call.prepareResource type name attributes >>= synth.accept := by
  unfold declare Call.prepareResource
  simp only [Logged.result_bind, Logged.result_ofExcept, Logged.result_warn, Outcome.ok_bind]
  cases Name.check name with
  | error error => rfl
  | ok =>
      cases Resource.validate attributes with
      | error error => rfl
      | ok =>
          show _ = synth.accept (.resource type ⟨name, attributes⟩)
          simp only [Outcome.ok_bind]
          rw [accept]
          by_cases htaken : synth.contains (Resource.typeName type.Attributes) name = true
          · rw [if_pos htaken, ResourceType.name, if_pos htaken]
            rfl
          · rw [if_neg htaken, ResourceType.name, if_neg htaken]
            rfl

theorem declareValue_eq_accept (type : ResourceType) (name : String) (value : Json) :
    ((synth.declareValue (α := type.Attributes) name value).result.map fun (next, reference) =>
        (next, some reference.summary)) =
      Call.prepareValue type name value >>= synth.accept := by
  rw [History.declareValue_result, Call.prepareValue]
  cases (Resource.ofJson value : Except Error type.Attributes) with
  | error error => rfl
  | ok attributes => exact declare_eq_accept type name attributes

end Synthesizer

/-- **A call is prepared without the synthesizer, and then accepted or not.** -/
theorem Call.outcome_eq {synth : Synthesizer} (call : Call) :
    call.outcome synth = call.prepare >>= synth.accept := by
  cases call with
  | addProvider provider => rfl
  | addVariable name input =>
      rw [outcome, prepare, Synthesizer.addVariable]
      cases Name.check name <;> rfl
  | addOutput name output =>
      rw [outcome, prepare, Synthesizer.addOutput]
      cases Name.check name <;> rfl
  | declare type name attributes => exact Synthesizer.declare_eq_accept type name attributes
  | declareValue type name value => exact Synthesizer.declareValue_eq_accept type name value
  | declareNamed registry type name value =>
      rw [outcome, prepare, Registry.declare]
      cases registry.get? type with
      | none => rfl
      | some known =>
          refine Eq.trans ?_ (Synthesizer.declareValue_eq_accept known name value)
          simp only [Logged.result_bind]
          cases (synth.declareValue (α := known.Attributes) name value).result <;> rfl

/-! ## Calls that declare different things -/

/-- The synthesizer after a call: as it was if the call is turned down. -/
def Call.after (synth : Synthesizer) (call : Call) : Synthesizer :=
  match call.perform synth with
  | .ok next => next
  | .error _ => synth

/-- The item that the call prepares, if there is one. -/
def Call.prepared (call : Call) : History :=
  call.prepare.toOption.toList

theorem Call.sublist_target_prepared {call : Call} (hbuilt : call.UsesBuilt) :
    (call.prepared.map Item.target).Sublist [call.target] := by
  rw [prepared]
  cases hprepare : call.prepare with
  | error error => exact List.nil_sublist _
  | ok item =>
      rw [← (prepare_eq_ok hbuilt hprepare).1]
      exact List.Sublist.refl _

/-- What calls with different targets prepare has different targets. -/
theorem Call.distinct_prepared {calls : List Call} (hbuilt : ∀ call ∈ calls, call.UsesBuilt)
    (htargets : (calls.map Call.target).Nodup) :
    History.Distinct (calls.flatMap Call.prepared) := by
  refine htargets.sublist ?_
  induction calls with
  | nil => exact .slnil
  | cons call rest ih =>
      have hcall : call.UsesBuilt := hbuilt call (List.mem_cons_self ..)
      have hrest := ih (fun later hlater => hbuilt later (List.mem_cons_of_mem _ hlater))
        (List.nodup_cons.mp htargets).2
      rw [List.flatMap_cons, List.map_append]
      exact (sublist_target_prepared hcall).append hrest

namespace Synthesizer

variable {synth : Synthesizer}

/-- The calls with what each of them gives, one after the other. -/
def answers (synth : Synthesizer) :
    List Call → List (Call × Except Error (Option DeclaredResource))
  | [] => []
  | call :: rest =>
    (call, (call.outcome synth).map Prod.snd) :: (call.after synth).answers rest

theorem run_cons (call : Call) (rest : List Call) :
    synth.run (call :: rest) = (call.after synth).run rest := by
  rw [run, Call.after]
  cases call.perform synth <;> rfl

end Synthesizer

namespace History.Describes

variable {history : History} {synth : Synthesizer}

/-- An item that declares something new is accepted. -/
theorem accept (h : history.Describes synth) {item : Item} (hname : item.HasAllowedName)
    (hnew : item.target ∉ history.map Item.target) :
    synth.accept item = .ok (synth.store item, item.summary?) ∧
      Describes (history ++ [item]) (synth.store item) := by
  have hpair : ∀ resource ∈ item.resource?,
      (resource.1.type, resource.1.name) ∉ history.pairs := by
    intro resource hresource hmem
    refine hnew ?_
    cases item <;> cases hresource
    exact target_of_mem_pairs hmem
  refine ⟨?_, h.store item hname hpair⟩
  cases item with
  | provider | input | output => rfl
  | resource type reference =>
      have hfree : ¬synth.contains type.name reference.name = true := by
        rw [h.contains_iff]
        exact hpair _ rfl
      rw [Synthesizer.accept, if_neg hfree]
      rfl

/-- **A call that declares something new gives what it prepares**, and what it
prepares goes on the history. -/
theorem callAfter (h : history.Describes synth) {call : Call} (hbuilt : call.UsesBuilt)
    (hnew : call.target ∉ history.map Item.target) :
    (call.outcome synth).map Prod.snd = call.prepare.map Item.summary? ∧
      Describes (history ++ call.prepared) (call.after synth) := by
  rw [Call.after, Call.perform_eq, Call.outcome_eq, Call.prepared]
  cases hprepare : call.prepare with
  | error error =>
      refine ⟨rfl, ?_⟩
      show Describes (history ++ []) synth
      rw [List.append_nil]
      exact h
  | ok item =>
      obtain ⟨htarget, hname⟩ := Call.prepare_eq_ok hbuilt hprepare
      obtain ⟨haccept, hnext⟩ := h.accept hname (htarget ▸ hnew)
      rw [Outcome.ok_bind, haccept]
      exact ⟨rfl, hnext⟩

/-- **Calls that declare different things give what they prepare**, and what they
prepare describes the synthesizer in the end. -/
theorem runDistinct (h : history.Describes synth) {calls : List Call}
    (hbuilt : ∀ call ∈ calls, call.UsesBuilt)
    (hdistinct : (history.map Item.target ++ calls.map Call.target).Nodup) :
    synth.answers calls = calls.map (fun call => (call, call.prepare.map Item.summary?)) ∧
      Describes (history ++ calls.flatMap Call.prepared) (synth.run calls) := by
  -- the targets of the history and of the calls that are left stay distinct
  induction calls generalizing history synth with
  | nil =>
      refine ⟨rfl, ?_⟩
      rw [List.flatMap_nil, List.append_nil]
      exact h
  | cons call rest ih =>
      have hcall : call.UsesBuilt := hbuilt call (List.mem_cons_self ..)
      have hrest : ∀ later ∈ rest, later.UsesBuilt := fun later hlater =>
        hbuilt later (List.mem_cons_of_mem _ hlater)
      have hnew : call.target ∉ history.map Item.target := by
        intro hmem
        exact (List.nodup_append.mp hdistinct).2.2 _ hmem _ (List.mem_cons_self ..) rfl
      have hlater :
          ((history ++ call.prepared).map Item.target ++ rest.map Call.target).Nodup := by
        rw [List.map_append, List.append_assoc]
        refine hdistinct.sublist (List.Sublist.append_left ?_ _)
        exact (Call.sublist_target_prepared hcall).append (List.Sublist.refl _)
      obtain ⟨hanswer, hnext⟩ := h.callAfter hcall hnew
      obtain ⟨hanswers, hrun⟩ := ih hnext hrest hlater
      rw [Synthesizer.answers, Synthesizer.run_cons, hanswer, hanswers, List.flatMap_cons,
        ← List.append_assoc]
      exact ⟨rfl, hrun⟩

end History.Describes

/-- **Calls that declare different things may come in any order.**  Each of them gives
the same answer, the documents are equal up to the order of keys, the same resources
are there, and what has been declared is the same up to order. -/
theorem Synthesizer.observed_of_perm {calls others : List Call} (hperm : calls.Perm others)
    (htargets : (calls.map Call.target).Nodup) (hbuilt : ∀ call ∈ calls, call.UsesBuilt) :
    (answers .empty calls).Perm (answers .empty others) ∧
      Json.SameUpToOrder (run .empty calls).document (run .empty others).document ∧
      (∀ type name,
        (run .empty calls).contains type name = (run .empty others).contains type name) ∧
      (run .empty calls).declared.Perm (run .empty others).declared := by
  have hothers : (others.map Call.target).Nodup := (hperm.map Call.target).nodup_iff.mp htargets
  have hbuilt' : ∀ call ∈ others, call.UsesBuilt := fun call hcall =>
    hbuilt call (hperm.mem_iff.mpr hcall)
  obtain ⟨hanswers, hdescribes⟩ := History.Describes.empty.runDistinct hbuilt htargets
  obtain ⟨hanswers', hdescribes'⟩ := History.Describes.empty.runDistinct hbuilt' hothers
  rw [List.nil_append] at hdescribes hdescribes'
  have hitems := hperm.flatMap_right Call.prepared
  refine ⟨?_, ?_, fun type name => ?_, ?_⟩
  · rw [hanswers, hanswers']
    exact hperm.map _
  · rw [hdescribes.document, hdescribes'.document]
    exact History.document_of_perm (Call.distinct_prepared hbuilt htargets) hitems
  · rw [Bool.eq_iff_iff, hdescribes.contains_iff, hdescribes'.contains_iff]
    exact (History.pairs_perm hitems).mem_iff
  · rw [hdescribes.declared, hdescribes'.declared]
    exact (History.resources_perm hitems).map Prod.fst

/-- A provider, two networks of which the second one is turned down, and an
output. -/
def networkCalls : List Call := [
  .addProvider (Aws.provider "us-east-1" none .empty),
  .declareNamed Registry.aws "aws_vpc" "main" (.object [("cidr_block", "10.0.0.0/16")]),
  .declareNamed Registry.aws "aws_vpc" "spare" (.object []),
  .addOutput "block" (.ofValue "10.0.0.0/16")]

theorem Synthesizer.observed_networkCalls_reverse :
    (networkCalls.map Call.target).Nodup ∧ (∀ call ∈ networkCalls, call.UsesBuilt) ∧
      (answers .empty networkCalls).Perm (answers .empty networkCalls.reverse) ∧
      Json.SameUpToOrder (run .empty networkCalls).document
        (run .empty networkCalls.reverse).document := by
  have htargets : (networkCalls.map Call.target).Nodup := by decide
  have hbuilt : ∀ call ∈ networkCalls, call.UsesBuilt := by
    simp [networkCalls, Call.UsesBuilt, Registry.Built.aws]
  obtain ⟨hanswers, hdocument, -, -⟩ :=
    observed_of_perm (List.reverse_perm networkCalls).symm htargets hbuilt
  exact ⟨htargets, hbuilt, hanswers, hdocument⟩

end InfraSynth
