import InfraSynth.Proofs.Decode.Draft
import InfraSynth.Proofs.Decode.Kept
import InfraSynth.Proofs.Synthesizer.Document
import InfraSynth.Proofs.Template.Synthesis
import InfraSynth.Template.Json

/-!
# What becomes of variables and outputs

The variables and outputs of a template are written in JSON and read again by whoever uses the
document.  A variable keeps everything but a default that is null (`Template.keeps_input`), and
an output that is given by its value alone keeps it (`Template.output_body_iff`), unless
the value is a list that could as well give the fields of an output in their order: the list
`["a", "b"]` is taken for the value `"a"` with the description `"b"`.

## Strategy

A template that was read comes from the draft of a text, and what is asked for is said of the
value.  `Template.exists_rel_of_ofJsonText` follows a name through both: the entry of the text
that counts has the value that is found under the name, and is what the variable or output was
read from.  What a definition gives is then read off its value field by field.
-/

namespace InfraSynth

open Json (Draft)
open Json.Draft (ReadsLike ReadsWhole)

variable {σ ε α : Type} [Source σ ε] {draft : Draft} {value : Json} {name : String}

/-! ## Reading the parts of a template -/

theorem Variable.plain : (Variable.record : Record σ ε Variable).fields.Plain :=
  ⟨rfl, show ["type", "description", "default", "sensitive"].Nodup by decide⟩

theorem Output.plain : (Output.record : Record σ ε Output).fields.Plain :=
  ⟨rfl, show ["value", "description", "sensitive"].Nodup by decide⟩

theorem ProviderSettings.plain :
    (ProviderSettings.record : Record σ ε ProviderSettings).fields.Plain :=
  ⟨rfl, show ["region", "profile", "default_tags"].Nodup by decide⟩

theorem Declaration.plain : (Declaration.record : Record σ ε Declaration).fields.Plain :=
  ⟨rfl, show ["type", "name", "attributes"].Nodup by decide⟩

theorem Template.plain {output : Codec σ ε OutputSpec} :
    (Template.record output).fields.Plain :=
  ⟨rfl, show ["name", "provider", "variables", "resources", "outputs"].Nodup by decide⟩

theorem Variable.readDraft_iff (hvalue : draft.IsValue value) {x : Variable} :
    Variable.record.read draft = .ok x ↔
      ¬draft.RepeatsKey ∧ (Variable.record : JsonRecord Variable).read value = .ok x := by
  refine Record.readDraft_iff_readJson ?_ plain plain hvalue
  refine .cons rfl rfl (.nullable .text) ?_
  refine .cons rfl rfl (.nullable .text) ?_
  refine .cons rfl rfl (.nullable .json) ?_
  exact .cons rfl rfl .flag .nil

theorem Output.readDraft_iff (hvalue : draft.IsValue value) {output : Output} :
    Output.record.read draft = .ok output ↔
      ¬draft.RepeatsKey ∧ (Output.record : JsonRecord Output).read value = .ok output := by
  refine Record.readDraft_iff_readJson ?_ plain plain hvalue
  refine .cons rfl rfl .json ?_
  refine .cons rfl rfl (.nullable .text) ?_
  exact .cons rfl rfl .flag .nil

/-- An output is a definition if it is read as one, and otherwise the value as it is. -/
theorem OutputSpec.readDraft_iff (hvalue : draft.IsValue value) {spec : OutputSpec} :
    OutputSpec.read draft = .ok spec ↔
      (∃ output, Output.record.read draft = .ok output ∧ spec = .definition output) ∨
        (∀ output, Output.record.read draft ≠ .ok output) ∧ spec = .bare value := by
  have hjson : (Source.json draft : Except DocumentError Json) = .ok value :=
    Codec.readDraft_json_eq_ok_iff.mpr hvalue
  rw [OutputSpec.read]
  cases Output.record.read draft with
  | ok output => simp [eq_comm]
  | error e =>
      rw [hjson, Outcome.ok_bind]
      simp [pure, Except.pure, eq_comm]

/-! ### What is read is complete -/

theorem Output.readsWhole :
    ReadsWhole (Output.record : Record Draft DocumentError Output).read :=
  ReadsWhole.record plain
    ⟨ReadsLike.json.whole, ReadsWhole.nullable ReadsLike.text.whole, ReadsLike.flag.whole, trivial⟩

theorem OutputSpec.readsWhole : ReadsWhole (OutputSpec.read (σ := Draft)) := by
  intro draft spec h
  rw [OutputSpec.read] at h
  cases hread : Output.record.read draft with
  | ok output => exact Output.readsWhole hread
  | error e =>
      rw [hread] at h
      obtain ⟨value, hvalue, -⟩ := Outcome.bind_eq_ok_iff.mp h
      exact ReadsLike.json.whole hvalue

theorem Variable.readsWhole :
    ReadsWhole (Variable.record : Record Draft DocumentError Variable).read :=
  ReadsWhole.record plain
    ⟨ReadsWhole.nullable ReadsLike.text.whole, ReadsWhole.nullable ReadsLike.text.whole,
      ReadsWhole.nullable ReadsLike.json.whole, ReadsLike.flag.whole, trivial⟩

theorem ProviderSettings.readsWhole :
    ReadsWhole (ProviderSettings.record : Record Draft DocumentError ProviderSettings).read :=
  ReadsWhole.record plain
    ⟨ReadsWhole.nullable ReadsLike.text.whole, ReadsWhole.nullable ReadsLike.text.whole,
      ReadsWhole.sortedMap ReadsLike.text.whole, trivial⟩

theorem Declaration.readsWhole :
    ReadsWhole (Declaration.record : Record Draft DocumentError Declaration).read :=
  ReadsWhole.record plain
    ⟨ReadsLike.text.whole, ReadsLike.text.whole, ReadsLike.json.whole, trivial⟩

namespace Template

variable {text : String} {template : Template} {json : Json}

theorem readsWhole :
    ReadsWhole (record OutputSpec.codec : Record Draft DocumentError Template).read := by
  have hprovider : ReadsWhole
      (ProviderSettings.record.codec : Codec Draft DocumentError ProviderSettings).nullable.read :=
    ReadsWhole.nullable ProviderSettings.readsWhole
  have hinputs : ReadsWhole
      (Variable.record.codec : Codec Draft DocumentError Variable).sortedMap.read :=
    ReadsWhole.sortedMap Variable.readsWhole
  have hresources : ReadsWhole
      (Declaration.record.codec : Codec Draft DocumentError Declaration).list.read :=
    ReadsWhole.list Declaration.readsWhole
  have houtputs : ReadsWhole
      (OutputSpec.codec : Codec Draft DocumentError OutputSpec).sortedMap.read :=
    ReadsWhole.sortedMap OutputSpec.readsWhole
  exact @ReadsWhole.record _ (record OutputSpec.codec) plain
    ⟨ReadsLike.text.whole, hprovider, hinputs, hresources, houtputs, trivial⟩

/-- A text that holds a template holds a value. -/
theorem exists_parse_of_ofJsonText (h : ofJsonText text = .ok template) :
    (record OutputSpec.codec).read (Json.Document.ofText text).draft = .ok template ∧
      ∃ json, Json.parse text = .ok json ∧ (Json.Document.ofText text).draft.IsValue json := by
  obtain ⟨read, hread, h⟩ := Outcome.bind_eq_ok_iff.mp h
  obtain ⟨_, -, h⟩ := Outcome.bind_eq_ok_iff.mp h
  obtain rfl : read = template := Except.ok.inj h
  obtain ⟨_, hdraft, hrest⟩ := Outcome.bind_eq_ok_iff.mp (Outcome.mapError_eq_ok_iff.mp hread)
  obtain ⟨json, hjson⟩ := readsWhole hdraft
  cases htrailing : (Json.Document.ofText text).trailing with
  | some fault => simp [htrailing] at hrest
  | none =>
      rw [htrailing] at hrest
      obtain rfl := Except.ok.inj hrest
      refine ⟨hdraft, json, ?_, hjson⟩
      rw [Json.parse, Json.Document.toJson, hjson, htrailing]
      rfl

end Template

/-! ## What is given for a variable or an output -/

namespace Json

/-- The definition of a variable in a template, as it is written there. -/
def input? (template : Json) (name : String) : Option Json :=
  (template.part? 2 "variables").bind (·.get? name)

/-- The definition of an output in a template, as it is written there. -/
def output? (template : Json) (name : String) : Option Json :=
  (template.part? 4 "outputs").bind (·.get? name)

/-- What a document says about the variable or the output with a name. -/
def body? (document : Json) (group name : String) : Option Json :=
  Entries.get? (entriesOrNone (document.get? group)) name

/-- The entry of a part, in a text and in its value. -/
theorem Draft.IsValue.bind_get? {draft : Draft} {value : Json} (h : draft.IsValue value)
    (hdistinct : ¬draft.RepeatsKey) (place : Nat) (name key : String) :
    Option.Rel Draft.IsValue ((draft.part? place name).bind (·.get? key))
      ((value.part? place name).bind (·.get? key)) := by
  have hpart := h.part? hdistinct place name
  generalize draft.part? place name = part at hpart
  generalize value.part? place name = other at hpart
  cases hpart with
  | none => exact .none
  | some hvalue => exact hvalue.get? key

end Json

/-- What a map that is a field has for a key is read from the entry that counts. -/
theorem Field.rel_get?_of_reads {fieldName key : String} {codec : Codec Draft DocumentError α}
    {isNamed : Bool} {part : Option Draft} {map : SortedMap α}
    (h : (Field.defaulted fieldName codec.sortedMap .empty).Reads isNamed part map) :
    Option.Rel (fun draft x => codec.read draft = .ok x) (part.bind (·.get? key))
      (map.get? key) := by
  cases part with
  | some draft => exact Codec.rel_get?_of_readDraft h key
  | none =>
      rcases h with h | ⟨-, h⟩
      · cases h
        exact .none
      · cases h

namespace Template

variable {text : String} {template : Template}

/-- The entry of a text that counts for a variable. -/
def inputDraft? (text name : String) : Option Draft :=
  ((Json.Document.ofText text).draft.part? 2 "variables").bind (·.get? name)

/-- The entry of a text that counts for an output. -/
def outputDraft? (text name : String) : Option Draft :=
  ((Json.Document.ofText text).draft.part? 4 "outputs").bind (·.get? name)

/-- Variables and outputs are read from the entries that count, whose values are those in the
value of the text. -/
theorem exists_rel_of_ofJsonText (h : ofJsonText text = .ok template) :
    ∃ json, Json.parse text = .ok json ∧ ∀ name,
      (Option.Rel Draft.IsValue (inputDraft? text name) (json.input? name) ∧
        Option.Rel (fun draft x => Variable.record.read draft = .ok x) (inputDraft? text name)
          (template.inputs.get? name)) ∧
      Option.Rel Draft.IsValue (outputDraft? text name) (json.output? name) ∧
        Option.Rel (fun draft spec => OutputSpec.read draft = .ok spec) (outputDraft? text name)
          (template.outputs.get? name) := by
  obtain ⟨hread, json, hparse, hjson⟩ := exists_parse_of_ofJsonText h
  obtain ⟨hfits, ⟨_, _, inputs, _, outputs, _⟩, ⟨-, -, hinputs, -, houtputs, -⟩, rfl⟩ :=
    (Record.readDraft_eq_ok_iff plain).mp hread
  have hdistinct := (hjson.fitsNames_iff.mp hfits).1
  refine ⟨json, hparse, fun name => ⟨⟨hjson.bind_get? hdistinct 2 "variables" name, ?_⟩,
    hjson.bind_get? hdistinct 4 "outputs" name, ?_⟩⟩
  · exact Field.rel_get?_of_reads hinputs
  · exact Field.rel_get?_of_reads houtputs

/-- The document has a body for every variable and every output. -/
theorem body?_document {config : Config} {synth : Synthesizer}
    (h : (Registry.aws.synthesize template config).result = .ok synth) (name : String) :
    synth.document.body? "variable" name =
        (template.inputs.get? name).map (fun x => x.toBlock.toJson) ∧
      synth.document.body? "output" name =
        (template.outputs.get? name).map fun spec => spec.output.toBlock.toJson := by
  obtain ⟨declared, hdeclared, hdescribes⟩ := (synthesize_meets template config).of_ok h
  have hbody : ∀ group, synth.document.body? group name =
      Entries.get? ((Entries.get? (template.history config declared).sections group).getD [])
        name := by
    intro group
    rw [Json.body?, hdescribes.document, History.entriesOrNone_document]
  constructor
  · rw [hbody]
    show Entries.get? (template.history config declared).inputs name = _
    rw [inputs_history hdeclared, Entries.get?_map fun x : Variable => x.toBlock.toJson]
    rfl
  · rw [hbody]
    show Entries.get? (template.history config declared).outputs name = _
    rw [outputs_history hdeclared,
      Entries.get?_map fun spec : OutputSpec => spec.output.toBlock.toJson]
    rfl

/-! ### Texts carried out -/

/-- Carry out the template in a text with the default settings. -/
def synthesizeText (text : String) : Except Error Synthesizer := do
  let template ← ofJsonText text
  (Registry.aws.synthesize template .default).result

theorem exists_of_synthesizeText {β : Type} (text : String) (see : Synthesizer → β) (seen : β)
    (h : (synthesizeText text).toOption.map see = some seen) :
    ∃ template synth, ofJsonText text = .ok template ∧
      (Registry.aws.synthesize template .default).result = .ok synth ∧ see synth = seen := by
  obtain ⟨synth, hsynth, rfl⟩ := Option.map_eq_some_iff.mp h
  obtain ⟨template, hread, hsynth⟩ :=
    Outcome.bind_eq_ok_iff.mp (Outcome.toOption_eq_some_iff.mp hsynth)
  exact ⟨template, synth, hread, hsynth, rfl⟩

end Template

/-! ## Variables -/

/-- What a field that may be absent writes is what was given, unless that is null. -/
theorem Field.map_write_eq_filter {codec : JsonCodec α} (hexact : codec.Exact) {isNamed : Bool}
    {part : Option Json} {x : Option α} (h : (Field.nullable name codec).Reads isNamed part x) :
    x.map codec.write = part.filter fun value => decide (value ≠ .null) := by
  cases part with
  | none =>
      rcases h with h | ⟨-, h⟩
      · cases h
      · cases h
        rfl
  | some value =>
      rcases Codec.readJson_nullable_eq_ok_iff.mp h with ⟨rfl, rfl⟩ | ⟨hnull, y, hy, rfl⟩
      · rfl
      · simp [Option.filter, hnull, hexact hy]

/-- A flag is set if it is given as true. -/
theorem Field.flag_eq_true_iff {isNamed : Bool} {part : Option Json} {x : Bool}
    (h : (Field.defaulted name (.flag : JsonCodec Bool) false).Reads isNamed part x) :
    x = true ↔ part = some (.bool true) := by
  cases part with
  | none =>
      rcases h with h | ⟨-, h⟩ <;> cases h
      simp
  | some value =>
      obtain rfl := Codec.readJson_flag_eq_ok_iff.mp h
      simp

namespace Variable

/-- What a body keeps of the definition of a variable: texts, a default that is not null, and
that the variable is sensitive. -/
structure Keeps (written body : Entries Json) : Prop where
  type : ∀ value, Entries.get? body "type" = some value ↔
    Entries.get? written "type" = some value ∧ ∃ text, value = .string text
  description : ∀ value, Entries.get? body "description" = some value ↔
    Entries.get? written "description" = some value ∧ ∃ text, value = .string text
  default : ∀ value, Entries.get? body "default" = some value ↔
    Entries.get? written "default" = some value ∧ value ≠ .null
  sensitive : ∀ value, Entries.get? body "sensitive" = some value ↔
    Entries.get? written "sensitive" = some value ∧ value = .bool true

/-- A text that is written was given as a text. -/
theorem map_string_eq_some_iff {part : Option Json} {x : Option String}
    (h : x.map Json.string = part.filter fun value => decide (value ≠ .null)) (value : Json) :
    x.map Json.string = some value ↔ part = some value ∧ ∃ text, value = .string text := by
  constructor
  · intro hvalue
    obtain ⟨text, -, rfl⟩ := Option.map_eq_some_iff.mp hvalue
    exact ⟨(Option.filter_eq_some_iff.mp (h.symm.trans hvalue)).1, text, rfl⟩
  · rintro ⟨rfl, text, rfl⟩
    simpa [Option.filter] using h

theorem get?_toBlock (x : Variable) :
    x.toBlock.get? "type" = x.type.map .string ∧
      x.toBlock.get? "description" = x.description.map .string ∧
      x.toBlock.get? "default" = x.default ∧
      x.toBlock.get? "sensitive" = if x.sensitive = true then some (.bool true) else none := by
  unfold toBlock
  cases x.sensitive <;> simp

/-- Each field is what is given for it, where null stands for nothing. -/
theorem fields_of_read {x : Variable} (h : (record : JsonRecord Variable).read value = .ok x) :
    let given place key := (value.part? place key).filter fun part => decide (part ≠ .null)
    x.type.map Json.string = given 0 "type" ∧
      x.description.map Json.string = given 1 "description" ∧ x.default = given 2 "default" ∧
      (x.sensitive = true ↔ value.part? 3 "sensitive" = some (.bool true)) := by
  obtain ⟨-, ⟨type, description, default, sensitive, _⟩,
    ⟨htype, hdescription, hdefault, hsensitive, -⟩, rfl⟩ := (Record.readJson_eq_ok_iff plain).mp h
  have hvalue : default.map id = _ :=
    Field.map_write_eq_filter Codec.exact_json hdefault
  rw [Option.map_id] at hvalue
  exact ⟨Field.map_write_eq_filter Codec.exact_text htype,
    Field.map_write_eq_filter Codec.exact_text hdescription, hvalue,
    Field.flag_eq_true_iff hsensitive⟩

theorem default_ne_null {x : Variable} (h : (record : JsonRecord Variable).read value = .ok x) :
    x.default ≠ some .null := by
  obtain ⟨-, -, hdefault, -⟩ := fields_of_read h
  intro hnull
  have hfilter := (Option.filter_eq_some_iff.mp (hdefault.symm.trans hnull)).2
  exact of_decide_eq_true hfilter rfl

theorem keeps_of_read {written : Entries Json} {x : Variable}
    (h : (record : JsonRecord Variable).read (.object written) = .ok x) :
    Keeps written x.toBlock.entries := by
  obtain ⟨htype, hdescription, hdefault, hsensitive⟩ := fields_of_read h
  obtain ⟨hgetType, hgetDescription, hgetDefault, hgetSensitive⟩ := get?_toBlock x
  rw [Block.get?] at hgetType hgetDescription hgetDefault hgetSensitive
  refine ⟨fun value => ?_, fun value => ?_, fun value => ?_, fun value => ?_⟩
  · rw [hgetType]
    exact map_string_eq_some_iff htype value
  · rw [hgetDescription]
    exact map_string_eq_some_iff hdescription value
  · rw [hgetDefault, hdefault, Option.filter_eq_some_iff, decide_eq_true_eq]
    exact Iff.rfl
  · simp only [hgetSensitive, Option.ite_none_right_eq_some, Option.some.injEq, hsensitive]
    constructor <;> rintro ⟨hgiven, rfl⟩ <;> exact ⟨hgiven, rfl⟩

end Variable

/-- **The definition of a variable survives, except for a default that is null.** -/
theorem Template.keeps_input {text : String} {template : Template} {config : Config}
    {synth : Synthesizer} (hread : ofJsonText text = .ok template)
    (hsynth : (Registry.aws.synthesize template config).result = .ok synth) :
    ∃ json, Json.parse text = .ok json ∧
      ∀ name written, json.input? name = some (.object written) →
        ∃ body, synth.document.body? "variable" name = some (.object body) ∧
          Variable.Keeps written body := by
  obtain ⟨json, hparse, hrel⟩ := exists_rel_of_ofJsonText hread
  refine ⟨json, hparse, fun name written hwritten => ?_⟩
  obtain ⟨⟨hvalue, hx⟩, -⟩ := hrel name
  have hbody := (body?_document hsynth name).1
  rw [hwritten] at hvalue
  obtain ⟨draft, hdraft, hvalue⟩ := exists_of_rel_of_some hvalue
  rw [hdraft] at hx
  obtain ⟨x, hfound, hx⟩ := exists_of_rel_some hx
  rw [hfound] at hbody
  exact ⟨x.toBlock.entries, hbody,
    Variable.keeps_of_read ((Variable.readDraft_iff hvalue).mp hx).2⟩

namespace Template

/-- A sensitive variable whose default is a list. -/
def ownerText : String :=
  "\x7b\"name\": \"main\", \"variables\": \x7b\"owner\": \x7b\"default\": [null], " ++
    "\"sensitive\": true\x7d\x7d\x7d"

theorem keeps_input_owner :
    ∃ template synth, ofJsonText ownerText = .ok template ∧
      (Registry.aws.synthesize template .default).result = .ok synth ∧
      ∃ body, synth.document.body? "variable" "owner" = some (.object body) ∧
        Variable.Keeps [("default", .array [.null]), ("sensitive", .bool true)] body := by
  obtain ⟨template, synth, hread, hsynth, -⟩ :=
    exists_of_synthesizeText ownerText (fun _ => ()) () (by decide +kernel)
  have hvalue : Json.parse ownerText = .ok (.object [("name", "main"), ("variables",
      .object [("owner", .object [("default", .array [.null]), ("sensitive", .bool true)])])]) :=
    Outcome.toOption_eq_some_iff.mp (by decide +kernel)
  obtain ⟨json, hparse, hkeeps⟩ := keeps_input hread hsynth
  obtain rfl := Except.ok.inj (hparse.symm.trans hvalue)
  exact ⟨template, synth, hread, hsynth, hkeeps "owner" _ rfl⟩

/-- A variable whose default is null. -/
def nullDefaultText : String :=
  "\x7b\"name\": \"main\", \"variables\": \x7b\"owner\": \x7b\"default\": null\x7d\x7d\x7d"

/-- The default is given, and the document has none. -/
theorem not_keeps_nullDefault :
    ∃ template synth json, ofJsonText nullDefaultText = .ok template ∧
      (Registry.aws.synthesize template .default).result = .ok synth ∧
      Json.parse nullDefaultText = .ok json ∧
      ∃ written body, json.input? "owner" = some (.object written) ∧
        Entries.get? written "default" = some .null ∧
        synth.document.body? "variable" "owner" = some (.object body) ∧
        Entries.get? body "default" = none := by
  obtain ⟨template, synth, hread, hsynth, hbody⟩ :=
    exists_of_synthesizeText nullDefaultText
      (fun synth => synth.document.body? "variable" "owner") (some (.object []))
      (by decide +kernel)
  have hvalue : Json.parse nullDefaultText = .ok (.object
      [("name", "main"), ("variables", .object [("owner", .object [("default", .null)])])]) :=
    Outcome.toOption_eq_some_iff.mp (by decide +kernel)
  exact ⟨template, synth, _, hread, hsynth, hvalue, _, [], rfl, rfl, hbody, rfl⟩

end Template

/-! ## Outputs -/

/-- The list gives the fields of an output in their order: a value, a text or null, and
perhaps a flag. -/
inductive Output.IsListedBy : Output → List Json → Prop
  | value {value : Json} {description : Option String} :
      IsListedBy ⟨value, description, false⟩ [value, .orNull (description.map .string)]
  | flagged {value : Json} {description : Option String} {sensitive : Bool} :
      IsListedBy ⟨value, description, sensitive⟩
        [value, .orNull (description.map .string), .bool sensitive]

/-- A text that may be absent is read from null or from a text. -/
theorem Codec.readJson_nullable_text_iff {x : Option String} :
    (Codec.text : JsonCodec String).nullable.read value = .ok x ↔
      value = .orNull (x.map .string) := by
  rw [readJson_nullable_eq_ok_iff]
  simp only [readJson_text_eq_ok_iff]
  cases x with
  | none => simp [Json.orNull]
  | some text => simp +contextual [Json.orNull]

namespace Output

theorem read_array_iff {items : List Json} {output : Output} :
    (record : JsonRecord Output).read (.array items) = .ok output ↔ output.IsListedBy items := by
  rw [Record.readJson_eq_ok_iff plain]
  constructor
  · rintro ⟨hlength, ⟨x, description, sensitive, _⟩, ⟨hvalue, hdescription, hsensitive, -⟩, rfl⟩
    -- the flag alone may be cut off
    obtain _ | ⟨first, _ | ⟨second, rest⟩⟩ := items
    · rcases hvalue with h | ⟨-, h⟩ <;> cases h
    · rcases hdescription with h | ⟨h, -⟩ <;> cases h
    · obtain rfl : first = x := Except.ok.inj hvalue
      obtain rfl := Codec.readJson_nullable_text_iff.mp hdescription
      obtain _ | ⟨third, _ | ⟨fourth, more⟩⟩ := rest
      · rcases hsensitive with h | ⟨-, h⟩ <;> cases h
        exact .value
      · obtain rfl := Codec.readJson_flag_eq_ok_iff.mp hsensitive
        exact .flagged
      · change more.length + 4 ≤ 3 at hlength
        omega
  · intro h
    cases h with
    | @value x description =>
        exact ⟨Nat.le_succ 2, (x, description, false, ()),
          ⟨rfl, Codec.readJson_nullable_text_iff.mpr rfl, .inl rfl, trivial⟩, rfl⟩
    | @flagged x description sensitive =>
        exact ⟨Nat.le_refl 3, (x, description, sensitive, ()),
          ⟨rfl, Codec.readJson_nullable_text_iff.mpr rfl, rfl, trivial⟩, rfl⟩

/-- Nothing else without a value is read as an output. -/
theorem read_iff_of_get?_eq_none (h : value.get? "value" = none) {output : Output} :
    (record : JsonRecord Output).read value = .ok output ↔
      ∃ items, value = .array items ∧ output.IsListedBy items := by
  cases value with
  | array items => simp [read_array_iff]
  | object entries =>
      have hmissing : (record : JsonRecord Output).read (.object entries) ≠ .ok output := by
        intro hread
        obtain ⟨-, ⟨x, _⟩, ⟨hvalue, -⟩, -⟩ := (Record.readJson_eq_ok_iff plain).mp hread
        change Field.Reads _ _ (Entries.get? entries "value") x at hvalue
        rw [show Entries.get? entries "value" = none from h] at hvalue
        rcases hvalue with h | ⟨-, h⟩ <;> cases h
      simp [hmissing]
  | null | bool _ | number _ | string _ =>
      constructor
      · intro hread
        obtain ⟨⟨⟩, -⟩ := (Record.readJson_eq_ok_iff plain).mp hread
      · rintro ⟨_, ⟨⟩, -⟩

/-- Nor from a text, where keys may be repeated, but a list has none. -/
theorem readDraft_iff_of_get?_eq_none (hvalue : draft.IsValue value)
    (h : value.get? "value" = none) {output : Output} :
    (record : Record Draft DocumentError Output).read draft = .ok output ↔
      ∃ items, value = .array items ∧ output.IsListedBy items := by
  rw [readDraft_iff hvalue, read_iff_of_get?_eq_none h]
  refine and_iff_right_of_imp ?_
  rintro ⟨items, rfl, -⟩
  cases draft with
  | object entries fault => obtain ⟨-, _, -, ⟨⟩⟩ := Draft.isValue_object_iff.mp hvalue
  | null | bool _ | number _ | string _ | array _ _ | broken _ => exact id

theorem IsListedBy.unique {items : List Json} {output other : Output} (h : output.IsListedBy items)
    (h' : other.IsListedBy items) : output = other := by
  have hread := read_array_iff.mpr h
  rw [read_array_iff.mpr h'] at hread
  exact (Except.ok.inj hread).symm

theorem get?_toBlock_value (output : Output) : output.toBlock.get? "value" = some output.value := by
  unfold toBlock
  cases output.sensitive <;> simp

/-- The value of an output is less deep than a list that gives it. -/
theorem IsListedBy.toBlock_ne {items : List Json} {output : Output} (h : output.IsListedBy items) :
    output.toBlock.toJson ≠ .object [("value", .array items)] := by
  intro heq
  have hentries : output.toBlock.entries = [("value", .array items)] := Json.object.inj heq
  have hvalue : output.value = .array items := by
    have hget := output.get?_toBlock_value
    rw [Block.get?, hentries] at hget
    exact (Option.some.inj hget).symm
  have hmem : output.value ∈ items := by
    cases h <;> exact List.mem_cons_self ..
  have hle := Json.depth_le_depthItems hmem
  rw [hvalue, Json.depth] at hle
  omega

end Output

/-- A value without a key for one is a list that gives the fields of an output, or it is
written as it is. -/
theorem OutputSpec.listed_or_kept (hvalue : draft.IsValue value) (hnone : value.get? "value" = none)
    {spec : OutputSpec} (h : read draft = .ok spec) :
    (∃ items, value = .array items ∧ spec.output.IsListedBy items) ∨
      (¬∃ items output, value = .array items ∧ Output.IsListedBy output items) ∧
        spec.output.toBlock.toJson = .object [("value", value)] := by
  rcases (readDraft_iff hvalue).mp h with ⟨output, houtput, rfl⟩ | ⟨hnot, rfl⟩
  · exact .inl ((Output.readDraft_iff_of_get?_eq_none hvalue hnone).mp houtput)
  · refine .inr ⟨?_, rfl⟩
    rintro ⟨items, output, hlisted⟩
    exact hnot output ((Output.readDraft_iff_of_get?_eq_none hvalue hnone).mpr ⟨items, hlisted⟩)

namespace Template

/-- **An output that is given by its value alone survives, unless it is a list that gives the
fields of an output in order.**  Such a list is taken for the definition of an output. -/
theorem output_body_iff {text : String} {template : Template} {config : Config}
    {synth : Synthesizer} (hread : ofJsonText text = .ok template)
    (hsynth : (Registry.aws.synthesize template config).result = .ok synth) :
    ∃ json, Json.parse text = .ok json ∧
      ∀ name value, json.output? name = some value → value.get? "value" = none →
        (synth.document.body? "output" name = some (.object [("value", value)]) ↔
          ¬∃ items output, value = .array items ∧ Output.IsListedBy output items) ∧
        ∀ items output, value = .array items → Output.IsListedBy output items →
          synth.document.body? "output" name = some output.toBlock.toJson := by
  obtain ⟨json, hparse, hrel⟩ := exists_rel_of_ofJsonText hread
  refine ⟨json, hparse, fun name value hgiven hnone => ?_⟩
  obtain ⟨-, hvalue, hspec⟩ := hrel name
  have hbody := (body?_document hsynth name).2
  rw [hgiven] at hvalue
  obtain ⟨draft, hdraft, hvalue⟩ := exists_of_rel_of_some hvalue
  rw [hdraft] at hspec
  obtain ⟨spec, hfound, hspec⟩ := exists_of_rel_some hspec
  rw [hbody, hfound, Option.map_some, Option.some.injEq]
  rcases OutputSpec.listed_or_kept hvalue hnone hspec with
    ⟨items, rfl, hlisted⟩ | ⟨hunlisted, hkept⟩
  · refine ⟨iff_of_false hlisted.toBlock_ne
      (not_not.mpr ⟨items, spec.output, rfl, hlisted⟩), ?_⟩
    rintro _ other ⟨⟩ hother
    rw [hlisted.unique hother]
  · exact ⟨iff_of_true hkept hunlisted, fun items output harray hlisted =>
      absurd ⟨items, output, harray, hlisted⟩ hunlisted⟩

/-- An output that is a list of three texts. -/
def subnetsText : String :=
  "\x7b\"name\": \"main\", \"outputs\": \x7b\"ids\": [\"a\", \"b\", \"c\"]\x7d\x7d"

theorem output_body_subnets :
    ∃ template synth, ofJsonText subnetsText = .ok template ∧
      (Registry.aws.synthesize template .default).result = .ok synth ∧
      (Json.array ["a", "b", "c"]).get? "value" = none ∧
      synth.document.body? "output" "ids" =
        some (.object [("value", .array ["a", "b", "c"])]) := by
  obtain ⟨template, synth, hread, hsynth, -⟩ :=
    exists_of_synthesizeText subnetsText (fun _ => ()) () (by decide +kernel)
  have hvalue : Json.parse subnetsText = .ok (.object
      [("name", "main"), ("outputs", .object [("ids", .array ["a", "b", "c"])])]) :=
    Outcome.toOption_eq_some_iff.mp (by decide +kernel)
  obtain ⟨json, hparse, hbody⟩ := output_body_iff hread hsynth
  obtain rfl := Except.ok.inj (hparse.symm.trans hvalue)
  have hunlisted : ¬∃ items output, Json.array ["a", "b", "c"] = .array items ∧
      Output.IsListedBy output items := by
    rintro ⟨_, output, ⟨⟩, hlisted⟩
    cases Output.read_array_iff.mpr hlisted
  exact ⟨template, synth, hread, hsynth, rfl, (hbody "ids" _ rfl rfl).1.mpr hunlisted⟩

/-- An output that is a list of two texts. -/
def pairText : String :=
  "\x7b\"name\": \"main\", \"outputs\": \x7b\"ids\": [\"a\", \"b\"]\x7d\x7d"

/-- The list is taken for a value with a description. -/
theorem output_body_pair :
    ∃ template synth json, ofJsonText pairText = .ok template ∧
      (Registry.aws.synthesize template .default).result = .ok synth ∧
      Json.parse pairText = .ok json ∧
      json.output? "ids" = some (.array ["a", "b"]) ∧ (Json.array ["a", "b"]).get? "value" = none ∧
      synth.document.body? "output" "ids" =
        some (.object [("value", "a"), ("description", "b")]) := by
  obtain ⟨template, synth, hread, hsynth, hbody⟩ :=
    exists_of_synthesizeText pairText (fun synth => synth.document.body? "output" "ids")
      (some (.object [("value", "a"), ("description", "b")])) (by decide +kernel)
  have hvalue : Json.parse pairText = .ok (.object
      [("name", "main"), ("outputs", .object [("ids", .array ["a", "b"])])]) :=
    Outcome.toOption_eq_some_iff.mp (by decide +kernel)
  exact ⟨template, synth, _, hread, hsynth, hvalue, rfl, rfl, hbody⟩

end Template

end InfraSynth
