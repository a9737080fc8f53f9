import InfraSynth.Proofs.Synthesizer.History

/-!
# What a document says

The document of a synthesizer is that of the history that describes it.  What
the document says about a resource, and under which names it defines variables,
resources and outputs, is looked up section by section, `History.get?_document`.
-/

namespace InfraSynth

/-- The entries of a value that may be an object. -/
def Json.entriesOrNone (value : Option Json) : Entries Json :=
  (value.bind Json.entries?).getD []

/-- The body of a resource in a document. -/
def Json.resourceBody (document : Json) (type name : String) : Option Json :=
  let byType := entriesOrNone (document.get? "resource")
  Entries.get? (entriesOrNone (Entries.get? byType type)) name

/-- The names under which a document defines variables, resources and
outputs. -/
def Json.definedNames (document : Json) : List String :=
  let byType := entriesOrNone (document.get? "resource")
  Entries.keys (entriesOrNone (document.get? "variable")) ++
    byType.flatMap (fun (_, byName) => Entries.keys (entriesOrNone byName)) ++
    Entries.keys (entriesOrNone (document.get? "output"))

namespace History

variable {history : History} {synth : Synthesizer}

theorem Describes.document (h : history.Describes synth) : synth.document = history.document := by
  rw [Synthesizer.document, Synthesizer.providerSections, Synthesizer.section_,
    Synthesizer.section_, Synthesizer.section_, h.providers, h.inputs, h.outputs, h.resources,
    History.document, sections]
  simp only [List.filter_cons, List.filter_nil, List.isEmpty_map]
  cases history.providers.isEmpty <;> cases history.inputs.isEmpty <;>
    cases (Entries.grouped history.bodies).isEmpty <;> cases history.outputs.isEmpty <;> rfl

/-- A section is there if it is not empty. -/
theorem get?_document (key : String) :
    history.document.get? key =
      ((Entries.get? history.sections key).filter fun entries => !entries.isEmpty).map .object := by
  have hnodup : (Entries.keys history.sections).Nodup := by
    show ["terraform", "provider", "variable", "resource", "output"].Nodup
    decide
  rw [document, Json.get?, Json.entries?, Option.bind_some, Entries.get?_map,
    Entries.get?_filter (fun section_ => !section_.isEmpty) hnodup]

theorem entriesOrNone_document (key : String) :
    Json.entriesOrNone (history.document.get? key) = (Entries.get? history.sections key).getD [] := by
  rw [get?_document]
  cases hsection : Entries.get? history.sections key with
  | none => rfl
  | some entries => cases entries <;> rfl

theorem entriesOrNone_get?_bodies (type : String) :
    Json.entriesOrNone (Entries.get?
      ((Entries.grouped history.bodies).map fun group => (group.1, .object group.2)) type) =
      Entries.ofGroup history.bodies type := by
  rw [Entries.get?_map Json.object, ← Entries.getD_get?_grouped]
  cases Entries.get? (Entries.grouped history.bodies) type <;> rfl

/-- The document has the body of every resource, and no others. -/
theorem resourceBody_document_eq_some_iff (hnodup : history.pairs.Nodup) {type name : String}
    {body : Json} :
    history.document.resourceBody type name = some body ↔ (type, name, body) ∈ history.bodies := by
  have hgroup : (Entries.keys (Entries.ofGroup history.bodies type)).Nodup :=
    Entries.nodup_keys_ofGroup (map_bodies ▸ hnodup)
  have hbody : history.document.resourceBody type name =
      Entries.get? (Entries.ofGroup history.bodies type) name := by
    rw [Json.resourceBody, entriesOrNone_document, ← entriesOrNone_get?_bodies]
    rfl
  calc history.document.resourceBody type name = some body
      ↔ Entries.get? (Entries.ofGroup history.bodies type) name = some body := by rw [hbody]
    _ ↔ (name, body) ∈ Entries.ofGroup history.bodies type := Entries.get?_eq_some_iff hgroup
    _ ↔ (type, name, body) ∈ history.bodies := Entries.mem_ofGroup_iff

/-- The names of variables and outputs are those of items. -/
theorem isAllowed_of_mem_merged (find : Item → Option (String × Json))
    (hfind : ∀ item name body, find item = some (name, body) → item.HasAllowedName →
      Name.IsAllowed name)
    (hallowed : ∀ item ∈ history, item.HasAllowedName) {name : String}
    (h : name ∈ Entries.keys (Entries.merged (history.filterMap find))) : Name.IsAllowed name := by
  rw [Entries.keys_merged] at h
  obtain ⟨⟨key, body⟩, hentry, rfl⟩ := List.mem_map.mp (List.mem_eraseDups.mp h)
  obtain ⟨item, hitem, hbody⟩ := List.mem_filterMap.mp hentry
  exact hfind item key body hbody (hallowed item hitem)

theorem isAllowed_of_mem_pairs (hallowed : ∀ item ∈ history, item.HasAllowedName)
    {type name : String} (h : (type, name) ∈ history.pairs) : Name.IsAllowed name := by
  obtain ⟨⟨resource, body⟩, hresource, heq⟩ := List.mem_map.mp h
  obtain ⟨item, hitem, hfind⟩ := List.mem_filterMap.mp hresource
  have hname := hallowed item hitem
  cases item with
  | provider | input | output => cases hfind
  | resource known reference =>
      cases hfind
      cases heq
      exact hname

/-- The names in the document are those of the items. -/
theorem isAllowed_of_mem_definedNames (hallowed : ∀ item ∈ history, item.HasAllowedName)
    {name : String} (h : name ∈ history.document.definedNames) : Name.IsAllowed name := by
  simp only [Json.definedNames, entriesOrNone_document, List.mem_append, List.mem_flatMap] at h
  rcases h with (hinput | ⟨⟨type, byName⟩, hgroup, hname⟩) | houtput
  · refine isAllowed_of_mem_merged Item.input? ?_ hallowed hinput
    intro item key body hfind hitem
    cases item <;> cases hfind
    exact hitem
  · obtain ⟨⟨group, entries⟩, hmem, heq⟩ := List.mem_map.mp hgroup
    cases heq
    obtain rfl : Entries.ofGroup history.bodies group = entries :=
      Option.some.inj (Entries.eq_some_of_mem_tabulate hmem)
    have hpair := Entries.mem_keys_ofGroup_iff.mp hname
    rw [map_bodies] at hpair
    exact isAllowed_of_mem_pairs hallowed hpair
  · refine isAllowed_of_mem_merged Item.output? ?_ hallowed houtput
    intro item key body hfind hitem
    cases item <;> cases hfind
    exact hitem

end History

end InfraSynth
