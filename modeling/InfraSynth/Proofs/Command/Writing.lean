import InfraSynth.Proofs.Command.DocumentText
import InfraSynth.Proofs.Command.Inputs
import InfraSynth.Proofs.Files.Disk

/-!
# Writing documents

A command that writes documents either changes nothing or writes one file for each
template, directly into the directory for documents: `Invocation.synth_writes`.

## Strategy

`writeDocument?` is what writing one document does to a disk.  Since the name of a
template is made of letters, digits, underscores and hyphens, the name of its file can
be the name of a file, so the document goes to a place right below the directory,
`of_writeDocument?`.  A document that is written later has another name and leaves the
earlier ones as they are, `of_foldlM_writeDocument?`.
-/

namespace InfraSynth.Command

open Files (Disk FileTree IsFileName Location FileSystem)
open Files.Disk (Keeps MakesDirectory)
open Relation (ReflTransGen)

variable {environment : String → Option String} {disk mid after : Disk} {config : Config}
  {location place : Location} {file : SynthesizedFile} {done : List SynthesizedFile}

/-! ## One document -/

/-- The disk with the directory for documents, if it can be made. -/
def makeOutputDir? (config : Config) (disk : Disk) : Option Disk :=
  if config.outputDir.isEmpty then some disk else disk.makeDirectories? config.outputDir

/-- The disk after a document has been written, if that can be done. -/
def writeDocument? (config : Config) (disk : Disk) (file : SynthesizedFile) : Option Disk := do
  (← makeOutputDir? config disk).write? (file.target config) file.text

theorem run_change (change? : Disk → Option Disk) :
    (Disk.change change?).run disk = ((change? disk).isSome, (change? disk).getD disk) := by
  unfold Disk.change
  rw [StateT.run_bind, StateT.run_get]
  cases h : change? disk <;> simp [h] <;> rfl

/-- Writing a document is making the directory for documents, if there is to be one, and
writing the file on the disk that has it. -/
theorem run_writeDocument_eq_elim (config : Config) (disk : Disk) (file : SynthesizedFile) :
    (writeDocument config file : StateM Disk Bool).run disk =
      (makeOutputDir? config disk).elim (false, disk)
        (Disk.change (·.write? (file.target config) file.text)).run := by
  unfold writeDocument makeOutputDir?
  cases hempty : config.outputDir.isEmpty with
  | true => rfl
  | false =>
      have hmake : (FileSystem.makeDirectories config.outputDir : StateM Disk Bool).run disk =
          ((disk.makeDirectories? config.outputDir).isSome,
            (disk.makeDirectories? config.outputDir).getD disk) :=
        run_change (·.makeDirectories? config.outputDir)
      simp only [Bool.false_eq_true, if_false, StateT.run_bind, hmake]
      cases disk.makeDirectories? config.outputDir <;> rfl

theorem run_writeDocument (config : Config) (disk : Disk) (file : SynthesizedFile) :
    ∃ rest, (writeDocument config file : StateM Disk Bool).run disk =
      ((writeDocument? config disk file).isSome, (writeDocument? config disk file).getD rest) := by
  unfold writeDocument?
  cases hmid : makeOutputDir? config disk with
  | none =>
      refine ⟨disk, ?_⟩
      rw [run_writeDocument_eq_elim, hmid]
      rfl
  | some mid =>
      refine ⟨mid, ?_⟩
      rw [run_writeDocument_eq_elim, hmid]
      exact run_change _

/-- A document goes to a place right below the directory for documents. -/
theorem of_writeDocument? (hname : Name.IsAllowed file.name)
    (h : writeDocument? config disk file = some after) :
    ∃ mid place, ReflTransGen MakesDirectory disk mid ∧
      mid.locate? config.outputDir = some place ∧ mid.node? place = some .directory ∧
      mid.Puts after (place ++ [file.fileName]) (.file (some file.text)) := by
  unfold writeDocument? at h
  rw [Option.bind_eq_bind, Option.bind_eq_some_iff] at h
  obtain ⟨mid, hmid, hwrite⟩ := h
  have hmade : ReflTransGen MakesDirectory disk mid := by
    unfold makeOutputDir? at hmid
    split at hmid
    · cases hmid
      exact .refl
    · exact (Disk.of_makeDirectories? hmid).1
  obtain ⟨place, hpath, hplace, hputs⟩ := Disk.puts_of_write? (isFileName_fileName hname) hwrite
  exact ⟨mid, place, hmade, hpath, hplace, hputs⟩

/-! ## All documents -/

theorem run_writeAll_cons {quiet : Bool} :
    ∃ rest, (writeAll quiet config (file :: done) : StateM Disk Report).run disk =
      match writeDocument? config disk file with
      | none => (⟨[], some (.error none .inputOutput)⟩, rest)
      | some mid =>
        let (report, after) := (writeAll quiet config done : StateM Disk Report).run mid
        ({ report with
          lines := (if quiet then [] else [writtenLine config file]) ++ report.lines }, after) := by
  obtain ⟨rest, hrest⟩ := run_writeDocument config disk file
  refine ⟨rest, ?_⟩
  rw [writeAll, StateT.run_bind, hrest]
  cases writeDocument? config disk file <;> rfl

/-- The lines for documents that have been written. -/
def writtenLines (quiet : Bool) (config : Config) (done : List SynthesizedFile) : List String :=
  if quiet then [] else done.map (writtenLine config)

/-- If all documents can be written, they are. -/
theorem run_writeAll_of_some {quiet : Bool}
    (h : done.foldlM (writeDocument? config) disk = some after) :
    (writeAll quiet config done : StateM Disk Report).run disk =
      (.success (writtenLines quiet config done), after) := by
  induction done generalizing disk with
  | nil =>
      cases h
      cases quiet <;> rfl
  | cons file others ih =>
      rw [List.foldlM_cons, Option.bind_eq_bind, Option.bind_eq_some_iff] at h
      obtain ⟨mid, hmid, hothers⟩ := h
      obtain ⟨rest, hrest⟩ := run_writeAll_cons
      rw [hrest, hmid]
      dsimp only
      rw [ih hothers]
      cases quiet <;> rfl

/-- If one of them cannot be written, that is the failure. -/
theorem failure_writeAll_of_none {quiet : Bool}
    (h : done.foldlM (writeDocument? config) disk = none) :
    ((writeAll quiet config done : StateM Disk Report).run disk).1.failure =
      some (.error none .inputOutput) := by
  induction done generalizing disk with
  | nil => cases h
  | cons file others ih =>
      rw [List.foldlM_cons, Option.bind_eq_bind] at h
      obtain ⟨rest, hrest⟩ := run_writeAll_cons
      rw [hrest]
      cases hmid : writeDocument? config disk file with
      | none => rfl
      | some mid =>
          rw [hmid] at h
          exact ih h

/-- The documents of files are right below a directory, and elsewhere files are as they
were. -/
structure HasDocuments (done : List SynthesizedFile) (disk after : Disk) (place : Location) :
    Prop where
  document : ∀ file ∈ done, after.node? (place ++ [file.fileName]) = some (.file (some file.text))
  others : ∀ location, (∀ file ∈ done, location ≠ place ++ [file.fileName]) →
    disk.Spares after location

theorem keeps_of_foldlM (hnames : ∀ file ∈ done, Name.IsAllowed file.name)
    (h : done.foldlM (writeDocument? config) disk = some after) : Keeps disk after := by
  induction done generalizing disk with
  | nil =>
      cases h
      exact Keeps.refl
  | cons file others ih =>
      obtain ⟨hname, hothers⟩ := List.forall_mem_cons.mp hnames
      rw [List.foldlM_cons, Option.bind_eq_bind, Option.bind_eq_some_iff] at h
      obtain ⟨next, hnext, hlast⟩ := h
      obtain ⟨mid, place, hmade, -, -, hputs⟩ := of_writeDocument? hname hnext
      have hmid : Keeps disk mid := Disk.keeps_of_makesDirectory hmade
      have hnext : Keeps disk next := hmid.trans hputs.keeps
      have hafter : Keeps next after := ih hothers hlast
      exact hnext.trans hafter

/-- Documents with different names are written one after the other. -/
theorem of_foldlM_writeDocument? (hnames : ∀ file ∈ done, Name.IsAllowed file.name)
    (hnodup : (done.map (·.fileName)).Nodup)
    (h : done.foldlM (writeDocument? config) disk = some after) :
    (done ≠ [] → ∃ place, after.locate? config.outputDir = some place) ∧
      ∀ place, after.locate? config.outputDir = some place →
        HasDocuments done disk after place := by
  induction done generalizing disk with
  | nil =>
      cases h
      exact ⟨fun hne => absurd rfl hne, fun _ _ => ⟨by simp, fun _ _ => Or.inl rfl⟩⟩
  | cons file others ih =>
      obtain ⟨hname, hothers⟩ := List.forall_mem_cons.mp hnames
      obtain ⟨hnew, hrest⟩ := List.nodup_cons.mp hnodup
      rw [List.foldlM_cons, Option.bind_eq_bind, Option.bind_eq_some_iff] at h
      obtain ⟨next, hnext, hlast⟩ := h
      obtain ⟨mid, first, hmade, hpath, hdirectory, hputs⟩ := of_writeDocument? hname hnext
      obtain ⟨-, hdocuments⟩ := ih hothers hrest hlast
      -- all documents go to one place: nothing that is written later leads the path elsewhere
      have hlater : Keeps next after := keeps_of_foldlM hothers hlast
      have hfirst : after.locate? config.outputDir = some first :=
        (hputs.keeps.trans hlater).locate? hpath
      refine ⟨fun _ => ⟨first, hfirst⟩, fun place hplace => ?_⟩
      obtain rfl : first = place := Option.some.inj (hfirst.symm.trans hplace)
      obtain ⟨hdocument, hspares⟩ := hdocuments first hplace
      constructor
      · intro other hother
        rcases List.mem_cons.mp hother with rfl | hother
        · -- the later documents have other names
          have hspared : next.Spares after (first ++ [other.fileName]) := by
            refine hspares _ fun later hlater heq => hnew ?_
            rw [List.append_cancel_left_eq, List.singleton_inj] at heq
            exact List.mem_map.mpr ⟨later, hlater, heq.symm⟩
          exact hspared.node?_eq_file_iff.mpr hputs.node?_self
        · exact hdocument other hother
      · intro location hlocation
        obtain ⟨hne, hnes⟩ := List.forall_mem_cons.mp hlocation
        have hmid : disk.Spares mid location := Disk.spares_of_makesDirectory hmade location
        have hnext : mid.Spares next location := hputs.spares hne
        have hafter : next.Spares after location := hspares location hnes
        exact (hmid.trans hnext).trans hafter

/-! ## Whole runs -/

/-- The documents of files are written, each to a file of its own right below the directory
that a path leads to, and no other file is changed. -/
structure WritesDocuments (outputDir : String) (done : List SynthesizedFile) (disk after : Disk)
    (directory : Location) : Prop where
  located : after.locate? outputDir = some directory
  target : ∀ file ∈ done, after.locate? (Files.join outputDir (file.name ++ ".tf.json")) =
    some (directory ++ [file.name ++ ".tf.json"])
  nodup : (done.map fun file => directory ++ [file.name ++ ".tf.json"]).Nodup
  document : ∀ file ∈ done, FileTree.at? (directory ++ [file.name ++ ".tf.json"]) after.root =
    some (.file (some (file.synth.document.pretty ++ "\n")))
  others : ∀ location text,
    location ∉ (done.map fun file => directory ++ [file.name ++ ".tf.json"]) →
    (FileTree.at? location after.root = some (.file text) ↔
      FileTree.at? location disk.root = some (.file text))

theorem writesDocuments_of_foldlM {files : List TemplateFile} (hne : files ≠ [])
    (hdone : GiveAll config files done) (hnodup : (done.map (·.name)).Nodup)
    (h : done.foldlM (writeDocument? config) disk = some after) :
    ∃ directory, WritesDocuments config.outputDir done disk after directory := by
  have hnames := hdone.isAllowed_name
  have hfileNames := nodup_fileName hnodup
  obtain ⟨hlocated, hdocuments⟩ := of_foldlM_writeDocument? hnames hfileNames h
  obtain ⟨directory, hdirectory⟩ := hlocated (hdone.ne_nil hne)
  obtain ⟨hdocument, hspares⟩ := hdocuments directory hdirectory
  refine ⟨directory, hdirectory, fun file hfile => ?_, ?_, fun file hfile => ?_, ?_⟩
  · have hsome : after.node? (directory ++ [file.fileName]) ≠ none := by
      simp [hdocument file hfile]
    exact Disk.locate?_join_name (isFileName_fileName (hnames file hfile)) hdirectory hsome
  · rw [List.Nodup, List.pairwise_map] at hfileNames ⊢
    refine hfileNames.imp fun hother heq => hother ?_
    exact List.singleton_inj.mp (List.append_cancel_left heq)
  · exact FileTree.node?_eq_file_iff.mp (hdocument file hfile)
  · intro location text hlocation
    have hspared : disk.Spares after location := by
      refine hspares location fun file hfile heq => hlocation ?_
      exact List.mem_map.mpr ⟨file, hfile, heq.symm⟩
    rw [← FileTree.node?_eq_file_iff, ← FileTree.node?_eq_file_iff]
    exact hspared.node?_eq_file_iff

/-- A run that is to write documents. -/
theorem run_report_synth {invocation : Invocation} {path : String} {output : Option String}
    {settings : Config} {files : List TemplateFile}
    (hrequest : invocation.request = .synth path output false)
    (hinputs : inputsOn environment disk invocation.config path = .ok (settings, files)) :
    (invocation.report environment : StateM Disk Report).run disk =
      (writeDocuments invocation.quiet { settings with outputDir := output.getD settings.outputDir }
        files : StateM Disk Report).run disk := by
  unfold Invocation.report
  rw [hrequest]
  exact run_withInputs_of_ok hinputs

/-- Only a run that has written the documents of all templates succeeds. -/
theorem exists_done_of_success {quiet : Bool} {files : List TemplateFile} {report : Report}
    (hrun : (writeDocuments quiet config files : StateM Disk Report).run disk = (report, after))
    (hsuccess : report.failure = none) :
    ∃ done, GiveAll config files done ∧ (done.map (·.name)).Nodup ∧
      done.foldlM (writeDocument? config) disk = some after ∧
      report = .success (writtenLines quiet config done) := by
  rw [writeDocuments] at hrun
  cases hall : synthesizeAll config files with
  | error failure =>
      rw [hall] at hrun
      cases hrun
      cases hsuccess
  | ok done =>
      rw [hall] at hrun
      dsimp only at hrun
      obtain ⟨hdone, hnodup⟩ := synthesizeAll_eq_ok_iff.mp hall
      cases hwrite : done.foldlM (writeDocument? config) disk with
      | none =>
          have hfailure : report.failure = some (.error none .inputOutput) := by
            rw [← failure_writeAll_of_none hwrite, hrun]
          rw [hsuccess] at hfailure
          cases hfailure
      | some last =>
          rw [run_writeAll_of_some hwrite] at hrun
          cases hrun
          exact ⟨done, hdone, hnodup, hwrite, rfl⟩

/-- **Documents are written for all templates or for none.**  Nothing is changed if a
template does not load or cannot be carried out, or if two of them have one name.
Otherwise, if the documents can be written at all, every template gets a file of its
own right below the directory for documents, and no other file is changed. -/
theorem Invocation.synth_writes {invocation : Invocation} {path : String} {output : Option String}
    {settings : Config} {files : List TemplateFile}
    (hrequest : invocation.request = .synth path output false)
    (hinputs : inputsOn environment disk invocation.config path = .ok (settings, files)) :
    let config := { settings with outputDir := output.getD settings.outputDir }
    let result := (invocation.report environment : StateM Disk Report).run disk
    ((¬∃ done, GiveAll config files done ∧ (done.map (·.name)).Nodup) →
      result.1.failure ≠ none ∧ result.2 = disk) ∧
    ∀ done, GiveAll config files done → (done.map (·.name)).Nodup →
      (∀ after, done.foldlM (writeDocument? config) disk = some after →
        result.1.failure = none ∧ result.2 = after ∧
          ∃ directory, WritesDocuments config.outputDir done disk after directory) ∧
      (done.foldlM (writeDocument? config) disk = none →
        result.1.failure = some (.error none .inputOutput)) := by
  intro config result
  have hresult : result = (writeDocuments invocation.quiet config files : StateM Disk Report).run
      disk := run_report_synth hrequest hinputs
  have hne : files ≠ [] := ne_nil_of_filesOn_eq_ok (inputsOn_eq_ok_iff.mp hinputs).2
  rw [writeDocuments] at hresult
  constructor
  · -- all files are synthesized before anything is written
    intro hnone
    cases hall : synthesizeAll config files with
    | ok done => exact absurd ⟨done, synthesizeAll_eq_ok_iff.mp hall⟩ hnone
    | error failure =>
        rw [hall] at hresult
        rw [hresult]
        exact ⟨by simp, rfl⟩
  · intro done hdone hnodup
    rw [synthesizeAll_eq_ok_iff.mpr ⟨hdone, hnodup⟩] at hresult
    rw [hresult]
    refine ⟨fun after hwrite => ?_, failure_writeAll_of_none⟩
    dsimp only
    rw [run_writeAll_of_some hwrite]
    exact ⟨rfl, rfl, writesDocuments_of_foldlM hne hdone hnodup hwrite⟩

/-- The documents of two templates are written. -/
theorem Invocation.synth_writes_twoTemplates :
    let result := ((plain (.synth "." none false)).report fun _ => none : StateM Disk Report).run
      twoTemplates
    result.1.failure = none ∧ ∃ done directory, GiveAll .default twoFiles done ∧
      WritesDocuments "terraform" done twoTemplates result.2 directory := by
  have hrequest : (plain (.synth "." none false)).request = .synth "." none false := rfl
  obtain ⟨-, hwrites⟩ := Invocation.synth_writes hrequest inputsOn_twoTemplates
  obtain ⟨done, hdone, hnodup⟩ := exists_giveAll_twoFiles
  have hsuccess : ((synthesizeAll .default twoFiles).toOption.bind fun done =>
      done.foldlM (writeDocument? .default) twoTemplates).isSome = true := by decide +kernel
  rw [synthesizeAll_eq_ok_iff.mpr ⟨hdone, hnodup⟩] at hsuccess
  obtain ⟨after, hafter⟩ :
      ∃ after, done.foldlM (writeDocument? .default) twoTemplates = some after :=
    Option.isSome_iff_exists.mp hsuccess
  obtain ⟨hfailure, hdisk, directory, hdocuments⟩ := (hwrites done hdone hnodup).1 after hafter
  refine ⟨hfailure, done, directory, hdone, ?_⟩
  rw [hdisk]
  exact hdocuments

end InfraSynth.Command
