import InfraSynth.Proofs.Aws.Provider
import InfraSynth.Proofs.Synthesizer.Operation
import Mathlib.Data.List.Forall2

/-!
# Carrying out templates

A template is carried out exactly if nothing in it is at fault, and the error is
that of the first part at fault, `Registry.synthesize_aws`.

## Strategy

`Template.parts` lists what a template consists of in the order in which it is
looked at, each declaration together with those before it, so that the fault of
a part does not depend on what has been carried out.  The loops over variables,
declarations and outputs then meet the faults of their parts, and the history
that describes the synthesizer in the end has one item for each of them.
-/

namespace InfraSynth

open Aws (ResourceType)
open Outcome (Meets fault? trail)

/-! ## Types that are known -/

namespace Registry

/-- Types are known under their names. -/
theorem get?_aws_eq_some_iff {type : String} {known : ResourceType} :
    aws.get? type = some known ↔ known.name = type := by
  constructor
  · intro h
    -- every type is registered under its own name
    have hnames : ∀ entry ∈ aws.entries, entry.2.name = entry.1 := by decide
    exact hnames _ ((Entries.get?_eq_some_iff aws.nodup_keys).mp h)
  · rintro rfl
    cases known <;> rfl

theorem get?_aws_eq_none_iff {type : String} :
    aws.get? type = none ↔ ∀ known : ResourceType, known.name ≠ type := by
  rw [Option.eq_none_iff_forall_ne_some]
  simp only [ne_eq, get?_aws_eq_some_iff]

end Registry

/-! ## Parts of a template -/

theorem Name.fault?_check_eq_none_iff {name : String} :
    fault? (Name.check name) = none ↔ Name.IsAllowed name := by
  rw [Outcome.fault?_check_eq_none_iff, Name.check_eq_ok_iff]

theorem Aws.Region.fault?_check_eq_none_iff {region : String} :
    fault? (Aws.Region.check region) = none ↔ Aws.IsRegion region := by
  rw [Outcome.fault?_check_eq_none_iff, Aws.Region.check_eq_ok_iff]

namespace Declaration

/-- The type and name under which the resource is declared. -/
def pair (declaration : Declaration) : String × String :=
  (declaration.type, declaration.name)

/-- What keeps a declaration that comes after others from being accepted: its
type is not known, its attributes cannot be read or have violations, its name is
not allowed, or an earlier declaration has the same type and name. -/
def fault? (earlier : List Declaration) (declaration : Declaration) : Option Error :=
  match Registry.aws.get? declaration.type with
  | none => some (.unknownType declaration.type)
  | some type =>
    (Outcome.fault? (Resource.ofJson declaration.attributes : Except Error type.Attributes)).or <|
      (Outcome.fault? (Name.check declaration.name)).or <|
        if declaration.pair ∈ earlier.map pair then
          some (.duplicateResource (Interpolation.address declaration.type declaration.name))
        else none

/-- The type of the declaration is known, and its attributes can be read and have
no violations. -/
structure Reads (declaration : Declaration) {type : ResourceType} (attributes : type.Attributes) :
    Prop where
  type_eq : type.name = declaration.type
  ofJson_eq : Resource.ofJson declaration.attributes = .ok attributes

/-- Nothing is wrong with the declaration taken for itself. -/
def IsValid (declaration : Declaration) : Prop :=
  (∃ (type : ResourceType) (attributes : type.Attributes), declaration.Reads attributes) ∧
    Name.IsAllowed declaration.name

/-- The item is the resource that is declared. -/
def Declares (declaration : Declaration) (item : Item) : Prop :=
  ∃ (type : ResourceType) (attributes : type.Attributes), declaration.Reads attributes ∧
    item = .resource type ⟨declaration.name, attributes⟩

theorem fault?_eq_none_iff {earlier : List Declaration} {declaration : Declaration} :
    declaration.fault? earlier = none ↔
      declaration.IsValid ∧ declaration.pair ∉ earlier.map pair := by
  rw [fault?]
  cases hknown : Registry.aws.get? declaration.type with
  | none =>
      have hnone := Registry.get?_aws_eq_none_iff.mp hknown
      refine ⟨nofun, ?_⟩
      rintro ⟨⟨⟨type, attributes, hreads⟩, -⟩, -⟩
      exact absurd hreads.type_eq (hnone type)
  | some type =>
      have hname := Registry.get?_aws_eq_some_iff.mp hknown
      rw [Option.or_eq_none_iff, Option.or_eq_none_iff, Name.fault?_check_eq_none_iff,
        Outcome.fault?_eq_none_iff]
      simp only [ite_eq_right_iff, reduceCtorEq, imp_false]
      constructor
      · rintro ⟨⟨attributes, hread⟩, hallowed, hnew⟩
        exact ⟨⟨⟨type, attributes, hname, hread⟩, hallowed⟩, hnew⟩
      · rintro ⟨⟨⟨other, attributes, hother, hread⟩, hallowed⟩, hnew⟩
        have hfound := Registry.get?_aws_eq_some_iff.mpr hother
        obtain rfl : type = other := Option.some.inj (hknown.symm.trans hfound)
        exact ⟨⟨attributes, hread⟩, hallowed, hnew⟩

end Declaration

namespace Template

/-- What a template consists of, as far as it can be at fault. -/
inductive Part
  | name (name : String)
  | region (region : String)
  | input (name : String)
  | resource (earlier : List Declaration) (declaration : Declaration)
  | output (name : String)

/-- What is wrong with a part. -/
def Part.fault? : Part → Option Error
  | .name text | .input text | .output text => Outcome.fault? (Name.check text)
  | .region text => Outcome.fault? (Aws.Region.check text)
  | .resource earlier declaration => declaration.fault? earlier

/-- What the template says about the provider. -/
def settings (template : Template) : ProviderSettings :=
  template.provider.getD .empty

/-- The parts in the order in which they are looked at. -/
def parts (template : Template) (config : Config) : List Part :=
  [.name template.name, .region (template.settings.region.getD config.region)] ++
    template.inputs.entries.map (fun entry => .input entry.1) ++
    (trail [] template.resources).map (fun place => .resource place.1 place.2) ++
    template.outputs.entries.map (fun entry => .output entry.1)

end Template

/-! ## Loops over the parts -/

namespace History

variable {history : History} {synth : Synthesizer}

/-- A loop whose steps each declare one item. -/
theorem Describes.foldlM {α : Type} {step : Synthesizer → α → Except Error Synthesizer}
    {check : α → Option Error} {item : α → Item}
    (hstep : ∀ history synth x, Describes history synth →
      Meets (step synth x) (check x) (Describes (history ++ [item x])))
    (h : history.Describes synth) (xs : List α) :
    Meets (xs.foldlM step synth) (xs.findSome? check) (Describes (history ++ xs.map item)) := by
  have hloop : Meets (xs.foldlM step synth) ((trail [] xs).findSome? fun place => check place.2)
      (Describes (history ++ ([] ++ xs).map item)) :=
    Meets.foldlM (fun _ => check) (fun before => Describes (history ++ before.map item))
      (fun before x s hs => by simpa using hstep _ _ x hs) (by simpa using h)
  rwa [Outcome.findSome?_trail] at hloop

/-- The variables of a template are defined one after the other. -/
theorem Describes.foldlM_addVariable (h : history.Describes synth) (inputs : Entries Variable) :
    Meets (inputs.foldlM (fun synth entry => synth.addVariable entry.1 entry.2) synth)
      (inputs.findSome? fun entry => fault? (Name.check entry.1))
      (Describes (history ++ inputs.map fun entry => .input entry.1 entry.2)) :=
  foldlM (fun _ _ entry hentry => hentry.addVariable entry.1 entry.2) h inputs

/-- So are the outputs. -/
theorem Describes.foldlM_addOutput (h : history.Describes synth) (outputs : Entries OutputSpec) :
    Meets (outputs.foldlM (fun synth entry => synth.addOutput entry.1 entry.2.output) synth)
      (outputs.findSome? fun entry => fault? (Name.check entry.1))
      (Describes (history ++ outputs.map fun entry => .output entry.1 entry.2.output)) :=
  foldlM (fun _ _ entry hentry => hentry.addOutput entry.1 entry.2.output) h outputs

theorem pairs_append (history later : History) :
    History.pairs (history ++ later) = history.pairs ++ later.pairs := by
  simp [pairs, resources]

theorem pairs_of_declares {declarations : List Declaration} {declared : History}
    (h : List.Forall₂ Declaration.Declares declarations declared) :
    declared.pairs = declarations.map Declaration.pair := by
  induction h with
  | nil => rfl
  | @cons declaration item declarations declared hitem _ ih =>
      obtain ⟨type, attributes, hreads, rfl⟩ := hitem
      rw [List.map_cons, ← ih, Declaration.pair, ← hreads.type_eq]
      rfl

/-- The fault of a declaration can be told from the declarations before it. -/
theorem declarationFault_eq {declaration : Declaration} {earlier : List Declaration}
    (hpairs : history.pairs = earlier.map Declaration.pair) :
    history.declarationFault Registry.aws declaration.type declaration.name
      declaration.attributes = declaration.fault? earlier := by
  rw [declarationFault, Declaration.fault?, ← hpairs]
  cases hknown : Registry.aws.get? declaration.type with
  | none => rfl
  | some known =>
      simp only [duplicateFault, List.contains_iff_mem, Declaration.pair,
        Registry.get?_aws_eq_some_iff.mp hknown]
      rfl

/-- The declarations of a template are carried out one after the other. -/
theorem Describes.foldlM_declare (h : history.Describes synth) (hpairs : history.pairs = [])
    (declarations : List Declaration) :
    Meets
      (declarations.foldlM (fun synth declaration =>
        (Registry.aws.declare synth declaration.type declaration.name
          declaration.attributes).result >>= fun value => .ok value.1) synth)
      ((trail [] declarations).findSome? fun place => place.2.fault? place.1)
      fun next => ∃ declared : History,
        List.Forall₂ Declaration.Declares declarations declared ∧
          Describes (history ++ declared) next := by
  refine Meets.foldlM (fun earlier declaration => declaration.fault? earlier)
    (fun before next => ∃ declared : History,
      List.Forall₂ Declaration.Declares before declared ∧ Describes (history ++ declared) next)
    ?_ ⟨[], .nil, by simpa using h⟩
  rintro earlier declaration next ⟨declared, hdeclared, hnext⟩
  -- the pairs in the history are those of the earlier declarations
  have hearlier : History.pairs (history ++ declared) = earlier.map Declaration.pair := by
    rw [pairs_append, hpairs, List.nil_append, pairs_of_declares hdeclared]
  rw [← declarationFault_eq hearlier]
  refine (hnext.declareNamed _ _ _ _).bind_pure ?_
  rintro ⟨last, summary⟩ ⟨known, attributes, hknown, hread, -, hlast⟩
  refine ⟨declared ++ [.resource known ⟨declaration.name, attributes⟩], ?_, by simpa using hlast⟩
  have hreads : declaration.Reads attributes :=
    ⟨Registry.get?_aws_eq_some_iff.mp hknown, hread⟩
  exact List.rel_append hdeclared (.cons ⟨known, attributes, hreads, rfl⟩ .nil)

end History

end InfraSynth
