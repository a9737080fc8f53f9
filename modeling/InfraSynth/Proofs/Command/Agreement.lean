import InfraSynth.Proofs.Command.Inputs

/-!
# Commands that agree

Checking templates, pricing them and printing their documents are three loops: the
first one counts all failures, the second one stops at the first, and the third one
stops there or where a name comes a second time.  `Invocation.outcomes_agree` says
that on the same inputs they decide the same.

## Strategy

A process ends well exactly if its report has no failure, `Exit` tells failures apart
from success whatever they are.  For each of the loops this means that the template in
every file gives something, and for the last one that the names differ in addition.
-/

namespace InfraSynth.Command

open Files (Disk FileTree Kind)

variable {environment : String → Option String} {disk : Disk} {config : Config}
  {files : List TemplateFile} {done : List SynthesizedFile}

/-! ## Failures are not success -/

theorem exitOfError_ne_success (error : Error) : exitOfError error ≠ .success := by
  cases error <;> simp [exitOfError]

theorem exitOfWords_ne_success (words : String) : exitOfWords words ≠ .success := by
  rw [exitOfWords]
  generalize Text.lowerAscii words = words
  split
  · simp
  · split
    · simp
    · split <;> simp

theorem Failure.exit_ne_success (failure : Failure) : failure.exit ≠ .success := by
  cases failure with
  | error task cause => exact exitOfError_ne_success cause
  | missingConfig | missingTemplates | noTemplates | sameName | invalidTemplates =>
      unfold Failure.exit
      exact exitOfWords_ne_success _

theorem Report.exit_outcome_eq_success_iff {report : Report} :
    report.outcome.exit = .success ↔ report.failure = none := by
  unfold outcome
  cases hfailure : report.failure with
  | none => simp
  | some failure => simpa using failure.exit_ne_success

/-! ## The three loops -/

theorem isNone_toOption_synthesize_iff {file : TemplateFile} :
    (file.synthesize config).toOption.isNone = true ↔ ¬∃ done, file.Gives config done := by
  simp only [← TemplateFile.synthesize_eq_ok_iff]
  cases file.synthesize config <;> simp [Except.toOption]

theorem failure_validate_eq_none_iff {quiet : Bool} :
    (validate quiet config files).failure = none ↔ ∃ done, GiveAll config files done := by
  have hcount : (files.filter fun file => (file.synthesize config).toOption.isNone).length = 0 ↔
      ∃ done, GiveAll config files done := by
    rw [List.length_eq_zero_iff, List.filter_eq_nil_iff, exists_giveAll_iff]
    simp only [isNone_toOption_synthesize_iff, Classical.not_not]
  rw [← hcount]
  unfold validate
  dsimp only
  split
  · rename_i hfailed
    simpa using hfailed
  · rename_i hnone
    simpa [Report.success] using hnone

theorem failure_costAfter_eq_none_iff {quiet : Bool} {lines : List String} {total : Binary64} :
    (costAfter quiet config lines total files).failure = none ↔
      ∃ done, GiveAll config files done := by
  rw [exists_giveAll_iff]
  induction files generalizing lines total with
  | nil => exact iff_of_true rfl (List.forall_mem_nil _)
  | cons file rest ih =>
      rw [List.forall_mem_cons]
      simp only [← TemplateFile.synthesize_eq_ok_iff] at ih ⊢
      unfold costAfter
      cases hfile : file.synthesize config with
      | error failure => simp
      | ok done => simpa using ih

theorem failure_printDocuments_eq_none_iff {inDirectory : Bool} :
    (printDocuments inDirectory config files).failure = none ↔
      ∃ done, GiveAll config files done ∧ (done.map (·.name)).Nodup := by
  unfold printDocuments
  cases hall : synthesizeAll config files with
  | ok done => simpa [Report.success] using ⟨done, synthesizeAll_eq_ok_iff.mp hall⟩
  | error failure =>
      have hnone : ∀ done, ¬(GiveAll config files done ∧ (done.map (·.name)).Nodup) := by
        intro done hdone
        rw [synthesizeAll_eq_ok_iff.mpr hdone] at hall
        cases hall
      simpa using hnone

/-! ## Whole runs -/

/-- How a process ends that carries out a request on a disk, with the options of an
invocation. -/
def Invocation.outcomeOn (environment : String → Option String) (disk : Disk)
    (invocation : Invocation) (request : Request) : Outcome :=
  (({ invocation with request }.report environment : StateM Disk Report).run disk).1.outcome

section Whole

variable {invocation : Invocation} {path : String} {output : Option String}

theorem outcomeOn_validate
    (hinputs : inputsOn environment disk invocation.config path = .ok (config, files)) :
    invocation.outcomeOn environment disk (.validate path) =
      (validate invocation.quiet config files).outcome :=
  congrArg (fun result => result.1.outcome) (run_withInputs_of_ok hinputs)

theorem outcomeOn_cost
    (hinputs : inputsOn environment disk invocation.config path = .ok (config, files)) :
    invocation.outcomeOn environment disk (.cost path) =
      (cost invocation.quiet config files).outcome :=
  congrArg (fun result => result.1.outcome) (run_withInputs_of_ok hinputs)

theorem outcomeOn_synth
    (hinputs : inputsOn environment disk invocation.config path = .ok (config, files)) :
    invocation.outcomeOn environment disk (.synth path output true) =
      (printDocuments (decide ((disk.tree? path).map FileTree.kind ≠ some .file))
        { config with outputDir := output.getD config.outputDir } files).outcome :=
  congrArg (fun result => result.1.outcome) (run_withInputs_of_ok hinputs)

end Whole

/-- **The commands agree.**  On settings and files that are found, checking the
templates succeeds exactly if pricing them does, which is if each of them loads and can
be carried out, and printing the documents succeeds exactly if in addition no two of
them have one name.  Then the documents of a directory are printed as one object, with
one entry for each template in the order of the files. -/
theorem Invocation.outcomes_agree (invocation : Invocation) {path : String}
    (output : Option String)
    (hinputs : inputsOn environment disk invocation.config path = .ok (config, files)) :
    ((invocation.outcomeOn environment disk (.validate path)).exit = .success ↔
      ∃ done, GiveAll config files done) ∧
    ((invocation.outcomeOn environment disk (.cost path)).exit = .success ↔
      ∃ done, GiveAll config files done) ∧
    ((invocation.outcomeOn environment disk (.synth path output true)).exit = .success ↔
      ∃ done, GiveAll config files done ∧ (done.map (·.name)).Nodup) ∧
    ∀ done, GiveAll config files done → (done.map (·.name)).Nodup →
      (disk.tree? path).map FileTree.kind = some .directory →
      invocation.outcomeOn environment disk (.synth path output true) =
        ⟨(Json.object (done.map fun file => (file.name, file.synth.document))).pretty ++ "\n", "",
          .success⟩ := by
  refine ⟨?_, ?_, ?_, fun done hdone hnodup hdirectory => ?_⟩
  · rw [outcomeOn_validate hinputs, Report.exit_outcome_eq_success_iff,
      failure_validate_eq_none_iff]
  · rw [outcomeOn_cost hinputs, Report.exit_outcome_eq_success_iff]
    exact failure_costAfter_eq_none_iff
  · rw [outcomeOn_synth hinputs, Report.exit_outcome_eq_success_iff,
      failure_printDocuments_eq_none_iff]
    simp only [giveAll_outputDir_iff]
  · have hall : synthesizeAll { config with outputDir := output.getD config.outputDir } files =
        .ok done :=
      synthesizeAll_eq_ok_iff.mpr ⟨giveAll_outputDir_iff.mpr hdone, hnodup⟩
    rw [outcomeOn_synth hinputs, hdirectory, printDocuments, hall]
    simp [Report.outcome, Report.success, Report.text, documents, documentsByName]

/-- Checking, pricing and printing two templates succeeds. -/
theorem Invocation.outcomes_agree_twoTemplates :
    ((plain (.resources false)).outcomeOn (fun _ => none) twoTemplates (.validate ".")).exit =
      .success ∧
    ((plain (.resources false)).outcomeOn (fun _ => none) twoTemplates (.cost ".")).exit =
      .success ∧
    ((plain (.resources false)).outcomeOn (fun _ => none) twoTemplates
      (.synth "." none true)).exit = .success := by
  obtain ⟨hvalidate, hcost, hsynth, -⟩ :=
    (plain (.resources false)).outcomes_agree none inputsOn_twoTemplates
  obtain ⟨done, hdone, hnodup⟩ := exists_giveAll_twoFiles
  exact ⟨hvalidate.mpr ⟨done, hdone⟩, hcost.mpr ⟨done, hdone⟩, hsynth.mpr ⟨done, hdone, hnodup⟩⟩

end InfraSynth.Command
