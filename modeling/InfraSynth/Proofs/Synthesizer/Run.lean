import InfraSynth.Proofs.Synthesizer.Document
import InfraSynth.Proofs.Synthesizer.Operation

/-!
# Sequences of calls

A synthesizer is used by calling it, and some of the calls are turned down.
Whatever the calls are, what can be observed in the end is what the history of
the accepted ones says, `Synthesizer.run_empty_observed`.

## Strategy

A call that is accepted declares one item, and the history with that item
describes the synthesizer after it: this is `Describes.perform`, the step.  A
call that is turned down leaves everything as it was.  By induction the history
of the accepted calls describes the synthesizer after all of them, and what can be
observed is read off the description.
-/

namespace InfraSynth

open Aws (ResourceType)

/-- A call of a synthesizer. -/
inductive Call
  | addProvider (provider : Provider)
  | addVariable (name : String) (input : Variable)
  | addOutput (name : String) (output : Output)
  | declare (type : ResourceType) (name : String) (attributes : type.Attributes)
  | declareValue (type : ResourceType) (name : String) (value : Json)
  | declareNamed (registry : Registry) (type name : String) (value : Json)

namespace Call

/-- The synthesizer after the call, if this is accepted. -/
def perform (synth : Synthesizer) : Call → Except Error Synthesizer
  | addProvider provider => .ok (synth.addProvider provider)
  | addVariable name input => synth.addVariable name input
  | addOutput name output => synth.addOutput name output
  | declare _ name attributes => (synth.declare name attributes).result.map Prod.fst
  | declareValue type name value =>
    (synth.declareValue (α := type.Attributes) name value).result.map Prod.fst
  | declareNamed registry type name value =>
    (registry.declare synth type name value).result.map Prod.fst

/-- The item that a value for a type of resources declares. -/
def itemOfValue (type : ResourceType) (name : String) (value : Json) : Option Item :=
  match (Resource.ofJson value : Except Error type.Attributes) with
  | .ok attributes => some (.resource type ⟨name, attributes⟩)
  | .error _ => none

/-- The item that the call declares, as far as that can be said without knowing
the synthesizer. -/
def item? : Call → Option Item
  | addProvider provider => some (.provider provider)
  | addVariable name input => some (.input name input)
  | addOutput name output => some (.output name output)
  | declare type name attributes => some (.resource type ⟨name, attributes⟩)
  | declareValue type name value => itemOfValue type name value
  | declareNamed registry type name value =>
    (registry.get? type).bind fun known => itemOfValue known name value

end Call

namespace Synthesizer

/-- The synthesizer after some calls.  A call that is turned down changes
nothing. -/
def run (synth : Synthesizer) : List Call → Synthesizer
  | [] => synth
  | call :: rest =>
    match call.perform synth with
    | .ok next => next.run rest
    | .error _ => synth.run rest

/-- The calls that are accepted. -/
def accepted (synth : Synthesizer) : List Call → List Call
  | [] => []
  | call :: rest =>
    match call.perform synth with
    | .ok next => call :: next.accepted rest
    | .error _ => synth.accepted rest

end Synthesizer

namespace History.Describes

variable {history : History} {synth next : Synthesizer}

theorem itemOfValue_eq {type : ResourceType} {name : String} {value : Json}
    {attributes : type.Attributes} (h : Resource.ofJson value = .ok attributes) :
    Call.itemOfValue type name value = some (.resource type ⟨name, attributes⟩) := by
  rw [Call.itemOfValue, h]

/-- **An accepted call declares an item, and is described by it.** -/
theorem perform (h : history.Describes synth) {call : Call}
    (hcall : call.perform synth = .ok next) :
    ∃ item, call.item? = some item ∧ Describes (history ++ [item]) next := by
  cases call with
  | addProvider provider =>
      obtain rfl := Except.ok.inj hcall
      exact ⟨_, rfl, h.addProvider provider⟩
  | addVariable name input => exact ⟨_, rfl, (h.addVariable name input).of_ok hcall⟩
  | addOutput name output => exact ⟨_, rfl, (h.addOutput name output).of_ok hcall⟩
  | declare type name attributes =>
      obtain ⟨⟨next, reference⟩, hresult, rfl⟩ := Outcome.map_eq_ok_iff.mp hcall
      exact ⟨_, rfl, ((h.declare name attributes).of_ok hresult).2⟩
  | declareValue type name value =>
      obtain ⟨⟨next, reference⟩, hresult, rfl⟩ := Outcome.map_eq_ok_iff.mp hcall
      obtain ⟨attributes, hread, -, hnext⟩ := (h.declareValue type name value).of_ok hresult
      exact ⟨_, itemOfValue_eq hread, hnext⟩
  | declareNamed registry type name value =>
      obtain ⟨⟨next, summary⟩, hresult, rfl⟩ := Outcome.map_eq_ok_iff.mp hcall
      obtain ⟨known, attributes, hknown, hread, -, hnext⟩ :=
        (h.declareNamed registry type name value).of_ok hresult
      refine ⟨_, ?_, hnext⟩
      rw [Call.item?, hknown]
      exact itemOfValue_eq hread

/-- After any calls the history goes on with what the accepted ones declare. -/
theorem run (h : history.Describes synth) (calls : List Call) :
    ∃ later : History, (synth.accepted calls).map Call.item? = later.map some ∧
      Describes (history ++ later) (synth.run calls) := by
  -- the history that describes the synthesizer grows along the calls
  induction calls generalizing history synth with
  | nil =>
      refine ⟨[], rfl, ?_⟩
      rw [List.append_nil]
      exact h
  | cons call rest ih =>
      rw [Synthesizer.accepted, Synthesizer.run]
      cases hcall : call.perform synth with
      | error error =>
          -- a call that is turned down leaves the description as it is
          exact ih h
      | ok next =>
          obtain ⟨item, hitem, hnext⟩ := h.perform hcall
          obtain ⟨later, hlater, hrun⟩ := ih hnext
          refine ⟨item :: later, ?_, by simpa using hrun⟩
          rw [List.map_cons, List.map_cons, hitem, hlater]

end History.Describes

/-- **What is observed after any calls on a new synthesizer is what the history of
the accepted ones says.**  The document is that of the history and has exactly
the bodies of its resources; what is declared are its resources in order, and no
type and name occur among them twice; every provider stands once, and all names
are allowed. -/
theorem Synthesizer.run_empty_observed (calls : List Call) :
    ∃ history : History, (accepted .empty calls).map Call.item? = history.map some ∧
      (run .empty calls).document = history.document ∧
      (∀ type name body, (run .empty calls).document.resourceBody type name = some body ↔
        (type, name, body) ∈ history.bodies) ∧
      (run .empty calls).declared = history.resources.map Prod.fst ∧
      (∀ type name, (run .empty calls).contains type name = true ↔ (type, name) ∈ history.pairs) ∧
      history.pairs.Nodup ∧
      (history.providers.map (·.name)).Nodup ∧
      ∀ name ∈ (run .empty calls).document.definedNames, Name.IsAllowed name := by
  obtain ⟨history, hitems, h⟩ := History.Describes.empty.run calls
  rw [List.nil_append] at h
  refine ⟨history, hitems, h.document, ?_, h.declared, fun _ _ => h.contains_iff, h.nodup_pairs,
    History.nodup_names_lastRegistrations _, ?_⟩
  · intro type name body
    rw [h.document]
    exact History.resourceBody_document_eq_some_iff h.nodup_pairs
  · intro name hname
    rw [h.document] at hname
    exact History.isAllowed_of_mem_definedNames h.allowed hname

end InfraSynth
