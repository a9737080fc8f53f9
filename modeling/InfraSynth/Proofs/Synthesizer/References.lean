import InfraSynth.Proofs.Check
import InfraSynth.Proofs.Synthesizer.Run
import InfraSynth.Proofs.Text

/-!
# References to declared resources

Resources refer to each other by texts, and nothing but the text says what is meant.
`Synthesizer.references_unambiguous` says that this is enough after any calls: no two
outputs of declared resources have one interpolation, no two resources have one
address, and an interpolation tells the resource and the attribute.

## Strategy

A text with points in it is taken apart at the first one by `Text.splitAt?`, which
gives one answer.  Types and names have no point in them, so what is before the first
point of a reference is the type, and what is before the next one is the name; nothing
is asked of the attribute.  Types and names tell declared resources apart, as
`History.Describes` has it for every synthesizer that is reached by calls.
-/

namespace InfraSynth

open Aws (ResourceType)

namespace Interpolation

variable {type name output type' name' output' : String}

/-! ## References as texts -/

theorem toList_address : (address type name).toList = type.toList ++ '.' :: name.toList := by
  simp [address, Text.toString_eq]

theorem splitAt?_address (h : '.' ∉ type.toList) :
    Text.splitAt? '.' (address type name) = some (type, name) :=
  Text.splitAt?_eq_some_iff.mpr ⟨toList_address, h⟩

/-- An address tells the type, if there is no point in it, and the name. -/
theorem address_inj (htype : '.' ∉ type.toList) (htype' : '.' ∉ type'.toList)
    (h : address type name = address type' name') : type = type' ∧ name = name' := by
  have hsplit : some (type', name') = some (type, name) := by
    rw [← splitAt?_address htype', ← h, splitAt?_address htype]
  have hpair := Prod.mk.inj (Option.some.inj hsplit)
  exact ⟨hpair.1.symm, hpair.2.symm⟩

theorem ofExpression_inj {first second : String} (h : ofExpression first = ofExpression second) :
    first = second := by
  rw [ofExpression, ofExpression, String.ofList_inj] at h
  have hclosed := (List.cons.inj (List.cons.inj h).2).2
  exact String.toList_inj.mp (List.append_cancel_right hclosed)

theorem ofResource_eq :
    ofResource type name output = ofExpression (address type (address name output)) := by
  have hexpression : s!"{type}.{name}.{output}" = address type (address name output) := by
    rw [← String.toList_inj, toList_address, toList_address]
    simp [Text.toString_eq]
  rw [ofResource, hexpression]

/-- A reference tells the type and the name, if there is no point in them, and the
attribute. -/
theorem ofResource_inj (htype : '.' ∉ type.toList) (htype' : '.' ∉ type'.toList)
    (hname : '.' ∉ name.toList) (hname' : '.' ∉ name'.toList)
    (h : ofResource type name output = ofResource type' name' output') :
    type = type' ∧ name = name' ∧ output = output' := by
  rw [ofResource_eq, ofResource_eq] at h
  obtain ⟨htypes, hrest⟩ := address_inj htype htype' (ofExpression_inj h)
  exact ⟨htypes, address_inj hname hname' hrest⟩

theorem isInterpolation_ofResource (type name output : String) :
    isInterpolation (ofResource type name output) = true := by
  refine isInterpolation_iff.mpr ⟨(address type (address name output)).toList, ?_, ?_⟩
  · rw [toList_address]
    exact List.append_ne_nil_of_right_ne_nil _ (List.cons_ne_nil _ _)
  · rw [ofResource_eq, ofExpression, String.toList_ofList]

end Interpolation

/-! ## Types and names have no points -/

theorem Name.IsAllowed.point_not_mem {name : String} (h : Name.IsAllowed name) :
    '.' ∉ name.toList := by
  obtain ⟨first, rest, htext, hfirst, hrest⟩ := h
  rw [htext, List.mem_cons]
  rintro (rfl | hmem)
  · revert hfirst
    decide
  · have hpoint := hrest '.' hmem
    revert hpoint
    decide

theorem Aws.ResourceType.point_not_mem_name (type : ResourceType) : '.' ∉ type.name.toList := by
  cases type <;> decide

theorem Aws.ResourceType.nodup_outputs (type : ResourceType) : type.outputs.Nodup := by
  cases type <;> decide

/-! ## Declared resources -/

/-- What is kept of a resource of a type whose name is allowed. -/
structure DeclaredResource.WellFormed (resource : DeclaredResource) : Prop where
  name : Name.IsAllowed resource.name
  type : ∃ type : ResourceType, resource.type = type.name ∧
    resource.outputs = type.outputs.map fun output =>
      (output, Interpolation.ofResource resource.type resource.name output)

namespace DeclaredResource

variable {resource other : DeclaredResource} {x y : String}

theorem WellFormed.point_not_mem_type (h : resource.WellFormed) :
    '.' ∉ resource.type.toList := by
  obtain ⟨type, htype, -⟩ := h.type
  rw [htype]
  exact type.point_not_mem_name

theorem WellFormed.address_inj (h : resource.WellFormed) (h' : other.WellFormed)
    (heq : resource.address = other.address) :
    (resource.type, resource.name) = (other.type, other.name) := by
  obtain ⟨htype, hname⟩ := Interpolation.address_inj h.point_not_mem_type h'.point_not_mem_type heq
  rw [htype, hname]

theorem WellFormed.ofResource_inj (h : resource.WellFormed) (h' : other.WellFormed)
    (heq : Interpolation.ofResource resource.type resource.name x =
      Interpolation.ofResource other.type other.name y) :
    (resource.type, resource.name) = (other.type, other.name) ∧ x = y := by
  obtain ⟨htype, hname, houtput⟩ := Interpolation.ofResource_inj h.point_not_mem_type
    h'.point_not_mem_type h.name.point_not_mem h'.name.point_not_mem heq
  exact ⟨by rw [htype, hname], houtput⟩

theorem WellFormed.eq_of_mem_outputs (h : resource.WellFormed) {output : String × String}
    (hmem : output ∈ resource.outputs) :
    output.2 = Interpolation.ofResource resource.type resource.name output.1 := by
  obtain ⟨type, -, houtputs⟩ := h.type
  rw [houtputs] at hmem
  obtain ⟨name, -, rfl⟩ := List.mem_map.mp hmem
  rfl

/-- The outputs of one resource have different interpolations. -/
theorem WellFormed.nodup_outputs (h : resource.WellFormed) :
    (resource.outputs.map Prod.snd).Nodup := by
  obtain ⟨type, -, houtputs⟩ := h.type
  rw [houtputs, List.map_map]
  refine List.Nodup.map_on (fun x _ y _ heq => ?_) type.nodup_outputs
  exact (h.ofResource_inj h heq).2

end DeclaredResource

namespace History.Describes

variable {history : History} {synth : Synthesizer}

theorem wellFormed (h : history.Describes synth) :
    ∀ resource ∈ synth.declared, resource.WellFormed := by
  intro resource hresource
  rw [h.declared] at hresource
  obtain ⟨⟨kept, body⟩, hkept, rfl⟩ := List.mem_map.mp hresource
  obtain ⟨item, hitem, hfound⟩ := List.mem_filterMap.mp hkept
  have hname := h.allowed item hitem
  cases item with
  | provider | input | output => cases hfound
  | resource type reference =>
      cases hfound
      exact ⟨hname, type, rfl, rfl⟩

/-- No type and name are declared twice. -/
theorem nodup_declared (h : history.Describes synth) :
    (synth.declared.map fun resource => (resource.type, resource.name)).Nodup := by
  rw [h.declared, List.map_map]
  exact h.nodup_pairs

end History.Describes

/-- **References are unambiguous after any calls.**  The interpolations of all outputs of
all declared resources are different, and so are the addresses.  Every reference to an
attribute is an interpolation, and tells the resource and the attribute. -/
theorem Synthesizer.references_unambiguous (calls : List Call) :
    let declared := (run .empty calls).declared
    (∀ resource ∈ declared, resource.WellFormed) ∧
      (declared.flatMap fun resource => resource.outputs.map Prod.snd).Nodup ∧
      (declared.map DeclaredResource.address).Nodup ∧
      (∀ resource ∈ declared, ∀ output, Interpolation.isInterpolation
        (Interpolation.ofResource resource.type resource.name output) = true) ∧
      ∀ first ∈ declared, ∀ second ∈ declared, ∀ x y,
        Interpolation.ofResource first.type first.name x =
          Interpolation.ofResource second.type second.name y → first = second ∧ x = y := by
  intro declared
  obtain ⟨history, -, h⟩ := History.Describes.empty.run calls
  have hwell : ∀ resource ∈ declared, resource.WellFormed := h.wellFormed
  have hnodup : (declared.map fun resource => (resource.type, resource.name)).Nodup :=
    h.nodup_declared
  have hpairs := List.pairwise_map.mp hnodup
  refine ⟨hwell, ?_, ?_, fun _ _ _ => Interpolation.isInterpolation_ofResource _ _ _, ?_⟩
  · refine List.nodup_flatMap.mpr ⟨fun resource h => (hwell resource h).nodup_outputs, ?_⟩
    refine hpairs.imp_of_mem fun {first second} hfirst hsecond hne => ?_
    intro text hmem hmem'
    -- an output that two resources had in common would give them one type and name
    obtain ⟨x, hx, rfl⟩ := List.mem_map.mp hmem
    obtain ⟨y, hy, heq⟩ := List.mem_map.mp hmem'
    rw [(hwell first hfirst).eq_of_mem_outputs hx,
      (hwell second hsecond).eq_of_mem_outputs hy] at heq
    exact hne ((hwell second hsecond).ofResource_inj (hwell first hfirst) heq).1.symm
  · refine List.pairwise_map.mpr (hpairs.imp_of_mem fun {first second} hfirst hsecond hne => ?_)
    intro heq
    exact hne ((hwell first hfirst).address_inj (hwell second hsecond) heq)
  · intro first hfirst second hsecond x y heq
    obtain ⟨hpair, hxy⟩ := (hwell first hfirst).ofResource_inj (hwell second hsecond) heq
    exact ⟨List.inj_on_of_nodup_map hnodup hfirst hsecond hpair, hxy⟩

end InfraSynth
