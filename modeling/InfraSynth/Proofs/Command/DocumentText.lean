import InfraSynth.Config.Toml
import InfraSynth.Proofs.Command.TemplateFile
import InfraSynth.Proofs.Json.Scalar
import InfraSynth.Proofs.Files.Path

/-!
# Documents as files

The text of a document begins with an object whose first key is `terraform`.  No
template has a field of that name, and no configuration file begins with a brace: read
as the one or the other, the text of a document is turned down.  Yet its file has the
name of a template, `ofPath?_join`.
-/

open InfraSynth.Outcome (bind_eq_ok_iff mapError_eq_ok_iff)

namespace InfraSynth

/-! ## Texts with a first key -/

namespace Json

variable {key : String} {value : Json} {entries : Entries Json}

/-- Objects written on several lines begin with the first key. -/
theorem toList_pretty_object (key : String) (value : Json) (entries : Entries Json) :
    ∃ tail, (Json.object ((key, value) :: entries)).pretty.toList =
      '{' :: newLine 1 (quote key tail) := by
  refine ⟨':' :: ' ' :: layOut 1 value (layOutEntries 1 false entries (newLine 0 ['}'])), ?_⟩
  unfold pretty
  rw [String.toList_ofList, layOut]
  · rfl
  · simp

/-- Whatever follows, the first entry that is read has the first key. -/
theorem exists_readEntries_quote (read : List Char → Reading Draft) (fuel : Nat) (key : String)
    (tail : List Char) :
    ∃ draft more, (readEntries read (fuel + 1) (quote key tail)).read = (key, draft) :: more := by
  unfold quote
  rw [List.cons_append, readEntries, readString_quote]
  dsimp only
  split
  · exact ⟨_, _, rfl⟩
  · exact ⟨_, _, rfl⟩

/-- A text that begins with a brace and a key is read as an object with that key. -/
theorem exists_draft_of_newLine {text : String} {tail : List Char}
    (h : text.toList = '{' :: newLine 1 (quote key tail)) :
    ∃ draft more fault, (Document.ofText text).draft = .object ((key, draft) :: more) fault := by
  have hspace : skipSpace (newLine 1 (quote key tail)) = quote key tail := by
    simp [newLine, quote, skipSpace, isSpace]
  obtain ⟨rest, hquote⟩ : ∃ rest, quote key tail = '"' :: rest := ⟨_, rfl⟩
  obtain ⟨draft, more, hread⟩ := exists_readEntries_quote (readValue 126) rest.length key tail
  -- values may be nested to a depth of 127, of which the object is the first
  have hdraft : (Document.ofText text).draft =
      (readObject (readValue 126) (newLine 1 (quote key tail))).value := by
    unfold Document.ofText
    rw [h]
    rfl
  refine ⟨draft, more, (readEntries (readValue 126) (rest.length + 1) (quote key tail)).fault, ?_⟩
  rw [hdraft, readObject, hspace, ← hread, hquote]
  rfl

end Json

/-! ## Templates -/

/-- An entry that no field answers to is an error. -/
theorem Fields.readEntry_of_not_mem {σ ε : Type} [Source σ ε] {αs : List Type}
    {fields : Fields σ ε αs} {known : List String} {key : String} {source : σ} {slots : Slots αs}
    (h : key ∉ fields.names) :
    fields.readEntry known key source slots =
      .error (Source.failure σ (.unknownField key known)) := by
  induction fields with
  | nil => rfl
  | cons field rest ih =>
      obtain ⟨slot, slots⟩ := slots
      rw [names, List.mem_append, not_or] at h
      have hfield : field.answersTo key = false := by
        simpa [Field.answersTo, Field.names] using h.1
      unfold readEntry
      rw [hfield, ih h.2]
      rfl

theorem Fields.readNamed_of_not_mem {σ ε : Type} [Source σ ε] {αs : List Type}
    {fields : Fields σ ε αs} {key : String} {source : σ} {more : List (String × σ)}
    {failure : Option ε} (h : key ∉ fields.names) :
    fields.readNamed ⟨(key, source) :: more, failure⟩ =
      .error (Source.failure σ (.unknownField key fields.names)) := by
  unfold readNamed
  simp only [List.foldlM_cons, readEntry_of_not_mem h]
  rfl

/-- A text that begins with a key that no template has is no template. -/
theorem Template.ofJsonText_ne_ok {text : String} {template : Template} {draft : Json.Draft}
    {more : List (String × Json.Draft)} {fault : Option Json.Fault}
    (h : (Json.Document.ofText text).draft = .object (("terraform", draft) :: more) fault) :
    ofJsonText text ≠ .ok template := by
  intro hok
  have hnames : "terraform" ∉ (record OutputSpec.codec : Record Json.Draft DocumentError
      Template).fields.names := by decide
  unfold ofJsonText Json.decode at hok
  simp only [h, bind_eq_ok_iff, mapError_eq_ok_iff] at hok
  obtain ⟨_, ⟨_, hread, -⟩, -⟩ := hok
  have hrecord : (record OutputSpec.codec).read (Json.Draft.object (("terraform", draft) :: more)
      fault) = (do
        return (record OutputSpec.codec).build (← (record OutputSpec.codec).fields.readNamed
          (Json.listing (("terraform", draft) :: more) fault))) := rfl
  rw [hrecord, bind_eq_ok_iff] at hread
  obtain ⟨row, hrow, -⟩ := hread
  rw [Json.listing, Fields.readNamed_of_not_mem hnames] at hrow
  cases hrow

/-! ## Configurations -/

/-- A text that begins with a brace is no configuration file. -/
theorem Toml.parse?_of_brace {text : String} {rest : List Char} (h : text.toList = '{' :: rest) :
    parse? text = none := by
  have hspace : skipSpace ('{' :: rest) = '{' :: rest := by simp [skipSpace, isSpace]
  have hline : endLine? ('{' :: rest) = none := by
    unfold endLine?
    rw [hspace]
    rfl
  have hkey : key? ('{' :: rest) = none := by
    simp [key?, isBare]
  have hassign : assignment? ('{' :: rest) = none := by
    unfold assignment? keys?
    rw [hspace, hkey]
    rfl
  have hlines : ∀ fuel, lines? (fuel + 1) ('{' :: rest) = none := by
    intro fuel
    unfold lines?
    rw [hspace]
    dsimp only
    rw [hline]
    show (assignment? ('{' :: rest)).bind _ = none
    rw [hassign]
    rfl
  unfold parse?
  rw [h, dropMark, hlines]
  · rfl
  · simp

theorem Config.ofTomlText_ne_ok {text : String} {config : Config} {rest : List Char}
    (h : text.toList = '{' :: rest) : ofTomlText text ≠ .ok config := by
  unfold ofTomlText
  rw [Toml.parse?_of_brace h]
  exact fun hok => by cases hok

namespace Command

open Files (IsFileName)

variable {config : Config} {source : TemplateFile} {file : SynthesizedFile}
  {done : List SynthesizedFile}

/-- A document is an object whose first key is `terraform`. -/
theorem exists_document_eq (h : source.Gives config file) :
    ∃ value entries, file.synth.document = .object (("terraform", value) :: entries) := by
  obtain ⟨declared, hdeclared, hdescribes⟩ :=
    (Template.synthesize_meets file.template config).of_ok h.synthesizes
  have hproviders : file.synth.providers = [Registry.effectiveProvider file.template config] :=
    hdescribes.providers.trans (Template.providers_history hdeclared)
  unfold Synthesizer.document Synthesizer.providerSections
  rw [hproviders]
  exact ⟨_, _, rfl⟩

theorem exists_toList_text_eq (h : source.Gives config file) :
    ∃ tail, file.text.toList = '{' :: Json.newLine 1 (Json.quote "terraform" tail) := by
  obtain ⟨value, entries, hdocument⟩ := exists_document_eq h
  obtain ⟨tail, htail⟩ := Json.toList_pretty_object "terraform" value entries
  refine ⟨tail ++ ['\n'], ?_⟩
  unfold SynthesizedFile.text
  rw [hdocument, String.toList_append, htail]
  simp [Json.newLine, Json.quote]

/-- A document is no template. -/
theorem ofJsonText_text_ne_ok (h : source.Gives config file) (template : Template) :
    Template.ofJsonText file.text ≠ .ok template := by
  obtain ⟨tail, htail⟩ := exists_toList_text_eq h
  obtain ⟨draft, more, fault, hdraft⟩ := Json.exists_draft_of_newLine htail
  exact Template.ofJsonText_ne_ok hdraft

/-- A document is no configuration file. -/
theorem ofTomlText_text_ne_ok (h : source.Gives config file) (settings : Config) :
    Config.ofTomlText file.text ≠ .ok settings := by
  obtain ⟨tail, htail⟩ := exists_toList_text_eq h
  exact Config.ofTomlText_ne_ok htail

/-! ## Names of documents -/

/-- The name of the file that a document is written to. -/
def SynthesizedFile.fileName (file : SynthesizedFile) : String :=
  file.name ++ ".tf.json"

theorem SynthesizedFile.fileName_inj {other : SynthesizedFile}
    (h : file.fileName = other.fileName) : file.name = other.name := by
  unfold fileName at h
  rw [← String.toList_inj, String.toList_append, String.toList_append] at h
  exact String.toList_inj.mp (List.append_cancel_right h)

theorem nodup_fileName (h : (done.map (·.name)).Nodup) : (done.map (·.fileName)).Nodup := by
  rw [List.Nodup, List.pairwise_map] at h ⊢
  exact h.imp fun hne heq => hne (SynthesizedFile.fileName_inj heq)

theorem isFileName_fileName (h : Name.IsAllowed file.name) : IsFileName file.fileName := by
  obtain ⟨first, rest, hname, hfirst, hrest⟩ := h
  have hchars : file.fileName.toList = first :: (rest ++ ".tf.json".toList) := by
    unfold SynthesizedFile.fileName
    rw [String.toList_append, hname, List.cons_append]
  have hpoint : first ≠ '.' := by
    rintro rfl
    revert hfirst
    decide
  have hslash : ∀ c ∈ first :: (rest ++ ".tf.json".toList), c ≠ '/' := by
    rintro c hc rfl
    rcases List.mem_cons.mp hc with rfl | hc
    · revert hfirst
      decide
    · rcases List.mem_append.mp hc with hc | hc
      · have hword := hrest _ hc
        revert hword
        decide
      · revert hc
        decide
  have hne : ∀ text : String, text.toList.head? ≠ some first → file.fileName ≠ text := by
    rintro text hhead rfl
    exact hhead (by rw [hchars]; rfl)
  refine ⟨fun hmem => hslash '/' (hchars ▸ hmem) rfl, hne "" (by simp), ?_, ?_⟩
  · exact hne "." (by simpa using hpoint.symm)
  · exact hne ".." (by simpa using hpoint.symm)

/-- The file of a document has the name of a template in JSON. -/
theorem extensionOf?_fileName : Files.extensionOf? file.fileName = some "json" := by
  have hreversed : file.fileName.toList.reverse =
      'n' :: 'o' :: 's' :: 'j' :: '.' :: 'f' :: 't' :: '.' :: file.name.toList.reverse := by
    simp [SynthesizedFile.fileName]
  unfold Files.extensionOf?
  rw [hreversed]
  simp

/-- Wherever a document is, its path is one of a template in JSON. -/
theorem ofPath?_join (hname : IsFileName file.fileName) (path : String)
    {rest : List String} (hrest : ∀ name ∈ rest, IsFileName name) :
    Template.Format.ofPath? (Files.join path ("/".intercalate (rest ++ [file.fileName]))) =
      some .json := by
  have hslash : ∀ name ∈ rest ++ [file.fileName], '/' ∉ name.toList := by
    intro name hmem
    rcases List.mem_append.mp hmem with hmem | hmem
    · exact (hrest name hmem).noSlash
    · exact List.mem_singleton.mp hmem ▸ hname.noSlash
  obtain ⟨front, hparts, -⟩ :=
    Files.exists_parts_join path ("/".intercalate (rest ++ [file.fileName]))
  rw [Files.parts_intercalate (by simp) hslash] at hparts
  unfold Template.Format.ofPath? Files.extension? Files.name? Files.steps
  rw [hparts, ← List.append_assoc, List.filter_append]
  have hlast : [file.fileName].filter (fun part => part ≠ "" ∧ part ≠ ".") = [file.fileName] := by
    simp [hname.ne_empty, hname.ne_here]
  rw [hlast, List.getLast?_concat, Option.filter_some, if_pos (by simpa using hname.ne_parent),
    Option.bind_some, extensionOf?_fileName]
  rfl

end Command

end InfraSynth
