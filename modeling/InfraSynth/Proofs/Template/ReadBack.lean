import InfraSynth.Proofs.Template.Written

/-!
# Templates that are written and read again

A template that was read from a text can be written as JSON and read again.  Everything comes
back but outputs: an output that repeats a key is no definition in a text, so it is taken for a
value, and the value repeats nothing any more.  `Template.read_toJson_of_ofJsonText` says that
this is the only way in which a template may change, and what it becomes, `Template.settled`.

## Strategy

What a field writes reads back to it, so the template that comes back is known
(`Template.read_toJson`), and only its outputs are to be compared.  An output that was read from
a draft without repeated keys was tried as a definition already, `Template.settled_eq_iff`.
-/

namespace InfraSynth

open Json (Draft)

namespace Output

theorem read_write (output : Output) :
    (record : JsonRecord Output).read ((record : JsonRecord Output).write output) = .ok output := by
  have hvalue : (Field.required "value" Codec.json : JsonField Json).Faithful output.value := rfl
  have hfaithful : (record : JsonRecord Output).codec.Faithful output := by
    refine .record (by decide) rfl ?_
    repeat refine .cons (by simp [hvalue]) ?_
    exact .nil
  exact hfaithful.read_write

end Output

namespace OutputSpec

/-- What is meant once the output has been written: a value that can be read as a definition
is one. -/
def settled : OutputSpec → OutputSpec
  | definition output => definition output
  | bare value =>
    match (Output.record : JsonRecord Output).read value with
    | .ok output => definition output
    | .error _ => bare value

theorem read_write (spec : OutputSpec) :
    (read (write spec) : Except DecodeError OutputSpec) = .ok spec.settled := by
  cases spec with
  | definition output => rw [read, write, Output.read_write, settled]
  | bare value =>
      rw [read, write, settled]
      cases (Output.record : JsonRecord Output).read value with
      | ok output => rfl
      | error e => rfl

theorem settled_bare_eq_iff {value : Json} : settled (bare value) = bare value ↔
    ∀ output, (Output.record : JsonRecord Output).read value ≠ .ok output := by
  rw [settled]
  cases (Output.record : JsonRecord Output).read value with
  | ok output => simp
  | error e => simp

end OutputSpec

theorem Variable.faithful {x : Variable} (h : x.default ≠ some .null) :
    (record : JsonRecord Variable).codec.Faithful x := by
  have hdefault : (Field.nullable "default" Codec.json : JsonField (Option Json)).Faithful
      x.default := by
    refine .nullable fun y hy => ⟨rfl, ?_⟩
    -- a default that is null would be read as none
    rintro rfl
    exact h hy
  refine .record (by decide) rfl ?_
  repeat refine .cons (by simp [hdefault]) ?_
  exact .nil

theorem ProviderSettings.faithful (settings : ProviderSettings) :
    (record : JsonRecord ProviderSettings).codec.Faithful settings := by
  refine .record (by decide) rfl ?_
  repeat refine .cons (by simp) ?_
  exact .nil

theorem Declaration.faithful (declaration : Declaration) :
    (record : JsonRecord Declaration).codec.Faithful declaration := by
  refine .record (by decide) rfl ?_
  repeat refine .cons rfl ?_
  exact .nil

namespace Template

/-- The template once it has been written. -/
def settled (template : Template) : Template :=
  { template with outputs := template.outputs.map OutputSpec.settled }

theorem read_toJson {template : Template}
    (h : ∀ entry ∈ template.inputs.entries, entry.2.default ≠ some .null) :
    (record OutputSpec.codec : JsonRecord Template).read template.toJson =
      .ok template.settled := by
  have hprovider : (Field.nullable "provider" ProviderSettings.record.codec).Faithful
      template.provider := .nullable fun settings _ => settings.faithful
  have hinputs : (Codec.sortedMap Variable.record.codec : JsonCodec _).read
      ((Codec.sortedMap Variable.record.codec : JsonCodec _).write template.inputs) =
        .ok (template.inputs.map id) :=
    Codec.read_write_sortedMap fun entry hentry => (Variable.faithful (h entry hentry)).read_write
  have hresources : (Codec.list Declaration.record.codec : JsonCodec _).Faithful
      template.resources := .list fun declaration _ => declaration.faithful
  have houtputs : (Codec.sortedMap OutputSpec.codec : JsonCodec _).read
      ((Codec.sortedMap OutputSpec.codec : JsonCodec _).write template.outputs) =
        .ok (template.outputs.map OutputSpec.settled) :=
    Codec.read_write_sortedMap fun entry _ => entry.2.read_write
  have hkeys : template.toJson.FitsNames
      ["name", "provider", "variables", "resources", "outputs"] := by
    show ["name", "provider", "variables", "resources", "outputs"].Nodup ∧ ∀ key ∈ _, key ∈ _
    exact ⟨by decide, fun _ => id⟩
  refine (Record.readJson_eq_ok_iff plain).mpr ⟨hkeys, (template.name, template.provider,
    template.inputs.map id, template.resources, template.outputs.map OutputSpec.settled, ()),
    ⟨rfl, hprovider, hinputs, hresources.read_write, houtputs, trivial⟩, ?_⟩
  rw [SortedMap.map_id]
  rfl

/-- A variable that was read from a text has no default that is null. -/
theorem default_ne_null_of_ofJsonText {text : String} {template : Template}
    (h : ofJsonText text = .ok template) :
    ∀ entry ∈ template.inputs.entries, entry.2.default ≠ some .null := by
  intro entry hentry
  obtain ⟨json, -, hrel⟩ := exists_rel_of_ofJsonText h
  obtain ⟨⟨hvalue, hx⟩, -⟩ := hrel entry.1
  have hfound : template.inputs.get? entry.1 = some entry.2 :=
    (Entries.get?_eq_some_iff template.inputs.nodup_keys).mpr hentry
  rw [hfound] at hx
  obtain ⟨draft, hdraft, hx⟩ := exists_of_rel_of_some hx
  rw [hdraft] at hvalue
  obtain ⟨value, -, hvalue⟩ := exists_of_rel_some hvalue
  exact Variable.default_ne_null ((Variable.readDraft_iff hvalue).mp hx).2

/-- An output was settled when it was read, unless a key was repeated. -/
theorem settled_eq_iff {draft : Draft} {value : Json} {spec : OutputSpec}
    (hvalue : draft.IsValue value) (h : OutputSpec.read draft = .ok spec) :
    spec.settled = spec ↔ (draft.RepeatsKey → ∀ output,
      (Output.record : JsonRecord Output).read value ≠ .ok output) := by
  rcases (OutputSpec.readDraft_iff hvalue).mp h with ⟨output, hread, rfl⟩ | ⟨hnot, rfl⟩
  · have hdistinct := ((Output.readDraft_iff hvalue).mp hread).1
    exact iff_of_true rfl fun hrepeats => absurd hrepeats hdistinct
  · rw [OutputSpec.settled_bare_eq_iff]
    refine ⟨fun h _ => h, fun h output hread => ?_⟩
    by_cases hrepeats : draft.RepeatsKey
    · exact h hrepeats output hread
    · exact hnot output ((Output.readDraft_iff hvalue).mpr ⟨hrepeats, hread⟩)

/-- **A template reads back from what is written for it, unless an output repeats a key.**
Such an output is no definition in the text, and is one after that if its value can be read as
one. -/
theorem read_toJson_of_ofJsonText {text : String} {template : Template}
    (h : ofJsonText text = .ok template) :
    (record OutputSpec.codec : JsonRecord Template).read template.toJson = .ok template.settled ∧
      ((record OutputSpec.codec : JsonRecord Template).read template.toJson = .ok template ↔
        ∀ name draft value, outputDraft? text name = some draft → draft.IsValue value →
          draft.RepeatsKey → ∀ output,
            (Output.record : JsonRecord Output).read value ≠ .ok output) := by
  have hread := read_toJson (default_ne_null_of_ofJsonText h)
  refine ⟨hread, ?_⟩
  obtain ⟨json, -, hrel⟩ := exists_rel_of_ofJsonText h
  have hsettled : template.settled = template ↔
      template.outputs.map OutputSpec.settled = template.outputs :=
    ⟨fun heq => congrArg Template.outputs heq, fun heq => by rw [settled, heq]⟩
  rw [hread, Except.ok.injEq, hsettled, SortedMap.map_eq_self_iff]
  -- an output comes back as it was unless it is a value that could be read as a definition
  refine forall_congr' fun name => ?_
  obtain ⟨-, hvalue, hspec⟩ := hrel name
  generalize outputDraft? text name = draft at hvalue hspec
  generalize json.output? name = value at hvalue
  generalize template.outputs.get? name = spec at hspec
  cases hspec with
  | none => simp
  | @some draft spec hspec =>
      cases hvalue with
      | @some _ value hvalue =>
          have hiff := settled_eq_iff hvalue hspec
          constructor
          · rintro h _ other ⟨⟩ hother
            rw [hother.unique hvalue]
            exact hiff.mp (h _ rfl)
          · rintro h _ ⟨⟩
            exact hiff.mpr (h draft value rfl hvalue)

/-- A template with a definition and a value among its outputs. -/
def sizesText : String :=
  "\x7b\"name\": \"main\", \"provider\": \x7b\"region\": \"eu-west-1\"\x7d, " ++
    "\"outputs\": \x7b\"size\": \x7b\"value\": 1, \"sensitive\": true\x7d, \"rest\": [null]\x7d\x7d"

theorem read_toJson_sizes :
    ∃ template, ofJsonText sizesText = .ok template ∧
      template.outputs.entries =
        [("rest", .bare (.array [.null])), ("size", .definition ⟨.int 1, none, true⟩)] ∧
      (record OutputSpec.codec : JsonRecord Template).read template.toJson = .ok template := by
  let template : Template := ⟨"main", some ⟨some "eu-west-1", none, .empty⟩, .empty, [],
    ⟨[("rest", .bare (.array [.null])), ("size", .definition ⟨.int 1, none, true⟩)], by decide⟩⟩
  have hread : ofJsonText sizesText = .ok template :=
    Outcome.toOption_eq_some_iff.mp (by decide +kernel)
  have hsettled : template.settled = template := by decide +kernel
  exact ⟨template, hread, rfl, (read_toJson_of_ofJsonText hread).1.trans (congrArg _ hsettled)⟩

/-- A template with an output that repeats a key. -/
def repeatedText : String :=
  "\x7b\"name\": \"main\", \"outputs\": \x7b\"size\": \x7b\"value\": 1, \"value\": 2\x7d\x7d\x7d"

/-- The output is a value at first, and a definition when it is read back. -/
theorem not_read_toJson_repeated :
    ∃ template other, ofJsonText repeatedText = .ok template ∧
      (record OutputSpec.codec : JsonRecord Template).read template.toJson = .ok other ∧
      template.outputs.entries = [("size", .bare (.object [("value", .int 2)]))] ∧
      other.outputs.entries = [("size", .definition ⟨.int 2, none, false⟩)] ∧ other ≠ template := by
  let template : Template := ⟨"main", none, .empty, [],
    ⟨[("size", .bare (.object [("value", .int 2)]))], by decide⟩⟩
  let other : Template := ⟨"main", none, .empty, [],
    ⟨[("size", .definition ⟨.int 2, none, false⟩)], by decide⟩⟩
  have htemplate : ofJsonText repeatedText = .ok template :=
    Outcome.toOption_eq_some_iff.mp (by decide +kernel)
  have hother : (record OutputSpec.codec : JsonRecord Template).read template.toJson = .ok other :=
    Outcome.toOption_eq_some_iff.mp (by decide +kernel)
  exact ⟨template, other, htemplate, hother, rfl, rfl, by decide⟩

end Template

end InfraSynth
