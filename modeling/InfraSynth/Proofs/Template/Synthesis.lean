import InfraSynth.Proofs.Aws.Provider
import InfraSynth.Proofs.Template.Part

/-!
# What carrying out a template gives

`Registry.synthesize_aws` puts together when a template is carried out, which
error it gives otherwise, and what the synthesizer then holds.
-/

namespace InfraSynth

open Aws (ResourceType)
open Outcome (Meets fault? trail)

/-- The provider is set up as a template and a configuration say together: what
the template says wins. -/
structure Provider.IsSetUpFor (provider : Provider) (template : Template) (config : Config) :
    Prop where
  name : provider.name = "aws"
  source : provider.source = "hashicorp/aws"
  version : provider.version = config.providerVersion
  region : provider.settings.get? "region" =
    some (.string (template.settings.region.getD config.region))
  profile : provider.settings.get? "profile" =
    (template.settings.profile.or config.profile).map .string
  tags : ∀ key, provider.tag? key =
    ((template.settings.defaultTags.get? key).or (config.defaultTags.get? key)).map .string

namespace Template

/-- Nothing in the template is wrong. -/
structure IsValid (template : Template) (config : Config) : Prop where
  name : Name.IsAllowed template.name
  region : Aws.IsRegion (template.settings.region.getD config.region)
  inputs : ∀ entry ∈ template.inputs.entries, Name.IsAllowed entry.1
  resources : ∀ declaration ∈ template.resources, declaration.IsValid
  nodup : (template.resources.map Declaration.pair).Nodup
  outputs : ∀ entry ∈ template.outputs.entries, Name.IsAllowed entry.1

/-- The synthesizer holds what the template declares, and nothing else. -/
structure IsHeldBy (template : Template) (config : Config) (synth : Synthesizer) : Prop where
  /-- There is one resource for each declaration, in the same order. -/
  declared : List.Forall₂ (fun (declaration : Declaration) resource =>
    ∃ (type : ResourceType) (attributes : type.Attributes), declaration.Reads attributes ∧
      resource = Reference.summary ⟨declaration.name, attributes⟩ ∧
      synth.resource? declaration.type declaration.name =
        some (Resource.block attributes).toJson)
    template.resources synth.declared
  contains : ∀ type name, synth.contains type name = true ↔
    (type, name) ∈ template.resources.map Declaration.pair
  inputs : synth.inputs =
    template.inputs.entries.map fun entry => (entry.1, entry.2.toBlock.toJson)
  outputs : synth.outputs =
    template.outputs.entries.map fun entry => (entry.1, entry.2.output.toBlock.toJson)
  provider : ∃ provider, synth.providers = [provider] ∧ provider.IsSetUpFor template config

variable {template : Template} {config : Config}

theorem effectiveProvider_isSetUpFor (template : Template) (config : Config) :
    (Registry.effectiveProvider template config).IsSetUpFor template config where
  name := rfl
  source := rfl
  version := rfl
  region := by
    refine Aws.get?_provider_region.trans ?_
    cases hprovider : template.provider <;>
      simp [Registry.effectiveRegion, settings, hprovider, ProviderSettings.empty]
  profile := Aws.get?_provider_profile
  tags key := by
    refine Aws.tag?_provider.trans ?_
    rw [SortedMap.get?_insertAll_entries]
    rfl

/-! ## When nothing is at fault -/

theorem forall_fault?_trail_iff {earlier declarations : List Declaration} :
    (∀ place ∈ trail earlier declarations, place.2.fault? place.1 = none) ↔
      (∀ declaration ∈ declarations, declaration.IsValid) ∧
        (∀ declaration ∈ declarations, declaration.pair ∉ earlier.map Declaration.pair) ∧
        (declarations.map Declaration.pair).Nodup := by
  induction declarations generalizing earlier with
  | nil => simp [trail]
  | cons declaration rest ih =>
      -- a later declaration differs from the earlier ones and from this one
      have hsplit : (∀ other ∈ rest, other.pair ∉ (earlier ++ [declaration]).map Declaration.pair) ↔
          (∀ other ∈ rest, other.pair ∉ earlier.map Declaration.pair) ∧
            declaration.pair ∉ rest.map Declaration.pair := by
        simp only [List.map_append, List.map_singleton, List.mem_append, List.mem_singleton, not_or,
          List.mem_map, not_exists, not_and, forall_and]
      rw [trail, List.forall_mem_cons, ih, hsplit, Declaration.fault?_eq_none_iff, List.map_cons,
        List.nodup_cons, List.forall_mem_cons, List.forall_mem_cons]
      constructor
      · rintro ⟨⟨hvalid, hnew⟩, hrest, ⟨hothers, hdistinct⟩, hnodup⟩
        exact ⟨⟨hvalid, hrest⟩, ⟨hnew, hothers⟩, hdistinct, hnodup⟩
      · rintro ⟨⟨hvalid, hrest⟩, ⟨hnew, hothers⟩, hdistinct, hnodup⟩
        exact ⟨⟨hvalid, hnew⟩, hrest, ⟨hothers, hdistinct⟩, hnodup⟩

theorem findSome?_parts_eq_none_iff :
    (template.parts config).findSome? Part.fault? = none ↔ template.IsValid config := by
  rw [List.findSome?_eq_none_iff]
  simp only [parts, List.forall_mem_append, List.forall_mem_cons, List.forall_mem_map, Part.fault?,
    forall_fault?_trail_iff]
  constructor
  · rintro ⟨⟨⟨⟨hname, hregion, -⟩, hinputs⟩, hresources, -, hnodup⟩, houtputs⟩
    exact ⟨Name.fault?_check_eq_none_iff.mp hname, Aws.Region.fault?_check_eq_none_iff.mp hregion,
      fun entry h => Name.fault?_check_eq_none_iff.mp (hinputs entry h), hresources, hnodup,
      fun entry h => Name.fault?_check_eq_none_iff.mp (houtputs entry h)⟩
  · intro h
    exact ⟨⟨⟨⟨Name.fault?_check_eq_none_iff.mpr h.name,
      Aws.Region.fault?_check_eq_none_iff.mpr h.region, by simp⟩,
      fun entry hentry => Name.fault?_check_eq_none_iff.mpr (h.inputs entry hentry)⟩,
      h.resources, by simp, h.nodup⟩,
      fun entry hentry => Name.fault?_check_eq_none_iff.mpr (h.outputs entry hentry)⟩

/-! ## Carrying out the parts -/

theorem findSome?_parts :
    (template.parts config).findSome? Part.fault? =
      (fault? (Name.check template.name)).or
        ((fault? (Aws.Region.check (template.settings.region.getD config.region))).or
          ((template.inputs.entries.findSome? fun entry => fault? (Name.check entry.1)).or
            (((trail [] template.resources).findSome? fun place => place.2.fault? place.1).or
              (template.outputs.entries.findSome? fun entry => fault? (Name.check entry.1))))) := by
  have hcons : ∀ (part : Part) (rest : List Part),
      (part :: rest).findSome? Part.fault? = part.fault?.or (rest.findSome? Part.fault?) := by
    intro part rest
    rw [List.findSome?_cons]
    cases part.fault? <;> rfl
  rw [parts, List.append_assoc, List.append_assoc, List.cons_append, List.cons_append, hcons, hcons]
  simp only [List.nil_append, List.findSome?_append, List.findSome?_map]
  rfl

/-- The history of a template that has been carried out. -/
def history (template : Template) (config : Config) (declared : History) : History :=
  [.provider (Registry.effectiveProvider template config)] ++
    template.inputs.entries.map (fun entry => .input entry.1 entry.2) ++ declared ++
    template.outputs.entries.map (fun entry => .output entry.1 entry.2.output)

theorem pairs_eq_nil {history : History} (h : ∀ item ∈ history, item.resource? = none) :
    history.pairs = [] := by
  rw [History.pairs, History.resources, List.filterMap_eq_nil_iff.mpr h, List.map_nil]

theorem synthesize_meets (template : Template) (config : Config) :
    Meets (Registry.aws.synthesize template config).result
      ((template.parts config).findSome? Part.fault?)
      fun synth => ∃ declared : History,
        List.Forall₂ Declaration.Declares template.resources declared ∧
          (template.history config declared).Describes synth := by
  have hregion : Registry.effectiveRegion template config =
      template.settings.region.getD config.region := by
    cases hprovider : template.provider <;>
      simp [Registry.effectiveRegion, settings, hprovider, ProviderSettings.empty]
  have hprovider : History.Describes [.provider (Registry.effectiveProvider template config)]
      (Synthesizer.empty.addProvider (Registry.effectiveProvider template config)) :=
    History.Describes.empty.addProvider _
  rw [findSome?_parts, Registry.synthesize, hregion]
  simp only [Logged.result_bind, Logged.result_ofExcept, Logged.result_foldlM, Logged.result_pure]
  refine Meets.self.bind fun _ _ => Meets.self.bind fun _ _ => ?_
  refine (hprovider.foldlM_addVariable template.inputs.entries).bind fun synth hsynth => ?_
  -- before the declarations are carried out there are no resources
  have hpairs : History.pairs ([.provider (Registry.effectiveProvider template config)] ++
      template.inputs.entries.map fun entry => .input entry.1 entry.2) = [] := by
    refine pairs_eq_nil fun item hitem => ?_
    rcases List.mem_append.mp hitem with hfirst | hinput
    · rw [List.mem_singleton.mp hfirst]
      rfl
    · obtain ⟨entry, -, rfl⟩ := List.mem_map.mp hinput
      rfl
  refine (hsynth.foldlM_declare hpairs template.resources).bind ?_
  rintro next ⟨declared, hdeclared, hnext⟩
  exact (hnext.foldlM_addOutput template.outputs.entries).mono fun last hlast =>
    ⟨declared, hdeclared, hlast⟩

/-! ## What is held in the end -/

section Held

variable {declared : History} {synth : Synthesizer}

theorem filterMap_eq_nil_of_declares {β : Type} {find : Item → Option β}
    (hfind : ∀ type reference, find (.resource type reference) = none)
    {declarations : List Declaration}
    (h : List.Forall₂ Declaration.Declares declarations declared) :
    declared.filterMap find = [] := by
  induction h with
  | nil => rfl
  | cons hitem _ ih =>
      obtain ⟨type, attributes, -, rfl⟩ := hitem
      rw [List.filterMap_cons_none (hfind _ _), ih]

theorem filterMap_history {β : Type} (find : Item → Option β) :
    (template.history config declared).filterMap find =
      (find (.provider (Registry.effectiveProvider template config))).toList ++
        template.inputs.entries.filterMap (fun entry => find (.input entry.1 entry.2)) ++
        declared.filterMap find ++
        template.outputs.entries.filterMap fun entry => find (.output entry.1 entry.2.output) := by
  simp only [history, List.filterMap_append, List.filterMap_map, Function.comp_def]
  cases hfind : find (.provider (Registry.effectiveProvider template config)) <;> simp [hfind]

theorem providers_history (h : List.Forall₂ Declaration.Declares template.resources declared) :
    (template.history config declared).providers =
      [Registry.effectiveProvider template config] := by
  rw [History.providers, filterMap_history, filterMap_eq_nil_of_declares (fun _ _ => rfl) h]
  simp [Item.provider?, History.lastRegistrations]

theorem inputs_history (h : List.Forall₂ Declaration.Declares template.resources declared) :
    (template.history config declared).inputs =
      template.inputs.entries.map fun entry => (entry.1, entry.2.toBlock.toJson) := by
  rw [History.inputs, filterMap_history, filterMap_eq_nil_of_declares (fun _ _ => rfl) h]
  simp only [Item.input?, Option.toList_none, List.filterMap_eq_map', List.nil_append,
    List.append_nil, List.filterMap_none]
  refine Entries.merged_of_nodup ?_
  rw [Entries.keys_map fun input : Variable => input.toBlock.toJson]
  exact template.inputs.nodup_keys

theorem outputs_history (h : List.Forall₂ Declaration.Declares template.resources declared) :
    (template.history config declared).outputs =
      template.outputs.entries.map fun entry => (entry.1, entry.2.output.toBlock.toJson) := by
  rw [History.outputs, filterMap_history, filterMap_eq_nil_of_declares (fun _ _ => rfl) h]
  simp only [Item.output?, Option.toList_none, List.filterMap_eq_map', List.nil_append,
    List.append_nil, List.filterMap_none]
  refine Entries.merged_of_nodup ?_
  rw [Entries.keys_map fun spec : OutputSpec => spec.output.toBlock.toJson]
  exact template.outputs.nodup_keys

theorem resources_history :
    (template.history config declared).resources = declared.resources := by
  rw [History.resources, filterMap_history]
  simp [Item.resource?, History.resources]

theorem declared_of_declares {declarations : List Declaration}
    (h : List.Forall₂ Declaration.Declares declarations declared)
    (hbodies : ∀ type name body, (type, name, body) ∈ declared.bodies →
      synth.resource? type name = some body) :
    List.Forall₂ (fun (declaration : Declaration) resource =>
      ∃ (type : ResourceType) (attributes : type.Attributes), declaration.Reads attributes ∧
        resource = Reference.summary ⟨declaration.name, attributes⟩ ∧
        synth.resource? declaration.type declaration.name =
          some (Resource.block attributes).toJson)
      declarations (declared.resources.map Prod.fst) := by
  induction h with
  | nil => exact .nil
  | @cons declaration item declarations declared hitem _ ih =>
      obtain ⟨type, attributes, hreads, rfl⟩ := hitem
      have hbody := hbodies type.name declaration.name _ (List.mem_cons_self ..)
      rw [hreads.type_eq] at hbody
      refine .cons ⟨type, attributes, hreads, rfl, hbody⟩ (ih fun _ _ _ hmem => ?_)
      exact hbodies _ _ _ (List.mem_cons_of_mem _ hmem)

theorem isHeldBy_of_describes (h : List.Forall₂ Declaration.Declares template.resources declared)
    (hsynth : (template.history config declared).Describes synth) :
    template.IsHeldBy config synth where
  declared := by
    rw [hsynth.declared, resources_history]
    refine declared_of_declares h fun type name body hbody => ?_
    rw [hsynth.resource?_eq_some_iff, History.bodies, resources_history]
    exact hbody
  contains type name := by
    rw [hsynth.contains_iff, History.pairs, resources_history, ← History.pairs,
      History.pairs_of_declares h]
  inputs := hsynth.inputs.trans (inputs_history h)
  outputs := hsynth.outputs.trans (outputs_history h)
  provider := ⟨_, hsynth.providers.trans (providers_history h),
    effectiveProvider_isSetUpFor template config⟩

end Held

end Template

/-- **A template is carried out exactly if nothing in it is wrong.**  Otherwise the
error is that of its first part at fault.  In the end the synthesizer holds what
the template declares. -/
theorem Registry.synthesize_aws (template : Template) (config : Config) :
    (∀ error, (aws.synthesize template config).result = .error error ↔
      (template.parts config).findSome? Template.Part.fault? = some error) ∧
    ((∃ synth, (aws.synthesize template config).result = .ok synth) ↔
      template.IsValid config) ∧
    ∀ synth, (aws.synthesize template config).result = .ok synth →
      template.IsHeldBy config synth := by
  have hmeets := Template.synthesize_meets template config
  refine ⟨fun error => hmeets.error_iff, ?_, fun synth hsynth => ?_⟩
  · rw [hmeets.exists_ok_iff, Template.findSome?_parts_eq_none_iff]
  · obtain ⟨declared, hdeclared, hdescribes⟩ := hmeets.of_ok hsynth
    exact Template.isHeldBy_of_describes hdeclared hdescribes

end InfraSynth
