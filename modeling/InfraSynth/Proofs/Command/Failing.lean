import InfraSynth.Proofs.Command.Writing

/-!
# What runs fail with

`Invocation.Fails` says what has to be wrong with the files on a disk for a request to
fail in each of the possible ways: everything that is looked at before is in order.
By `failure_report_iff` these are the failures that are reported, so a run has at most
one of them, and none exactly if nothing is wrong.

## Strategy

Each part of a run has a relation of its own, for the settings, the files, one template
and all of them, and a lemma that this is how the part fails.  The loops fail at the
first file that does; the files before it can all be carried out.
-/

open InfraSynth.Outcome (bind_eq_error_iff exists_place_cons_iff foldlM_eq_error_iff
  mapError_eq_error_iff mapError_eq_ok_iff)

namespace InfraSynth.Command

open Files (Disk FileTree FileSystem)

variable {environment : String → Option String} {disk : Disk} {config : Config}
  {files : List TemplateFile} {failure : Failure}

/-! ## Settings and files -/

/-- There are no settings: the configuration file that is asked for is missing, one cannot
be read, or with what the environment says the settings are wrong. -/
inductive SettingsFail (environment : String → Option String) (disk : Disk)
    (name : Option String) : Failure → Prop
  | missing {asked : String} (request : name = some asked) (missing : disk.tree? asked = none) :
    SettingsFail environment disk name (.missingConfig asked)
  | unread {tree : FileTree} {cause : Error} (found : disk.tree? (name.getD configFile) = some tree)
    (unread : configOfText tree.text? = .error cause) :
    SettingsFail environment disk name (.error (name.map .loading) cause)
  | wrong {settings : Config} {cause : Error} (found : configOn disk name = .ok settings)
    (wrong : settings.override environment = .error cause) :
    SettingsFail environment disk name (.error none cause)

/-- There are no templates: nothing is at the path, or a directory without any. -/
inductive FilesFail (disk : Disk) (path : String) : Failure → Prop
  | missing (missing : disk.tree? path = none) : FilesFail disk path (.missingTemplates path)
  | empty {entries : List (String × FileTree)}
    (directory : disk.tree? path = some (.directory entries))
    (empty : ∀ file ∈ FileTree.filesOf entries,
      Template.isTemplatePath (Files.join path ("/".intercalate file.1)) = false) :
    FilesFail disk path (.noTemplates path)

theorem configOn_eq_error_iff {name : Option String} :
    configOn disk name = .error failure ↔
      (∃ asked, name = some asked ∧ disk.tree? asked = none ∧ .missingConfig asked = failure) ∨
      ∃ tree cause, disk.tree? (name.getD configFile) = some tree ∧
        configOfText tree.text? = .error cause ∧ .error (name.map .loading) cause = failure := by
  unfold configOn
  cases htree : disk.tree? (name.getD configFile) with
  | none =>
      cases name with
      | none => simp
      | some asked => simpa using fun _ => htree
  | some tree =>
      cases name with
      | none => simp [mapError_eq_error_iff]
      | some asked =>
          rw [Option.getD_some] at htree
          simp [htree, mapError_eq_error_iff]

theorem settingsOn_eq_error_iff {name : Option String} :
    settingsOn environment disk name = .error failure ↔
      SettingsFail environment disk name failure := by
  unfold settingsOn
  simp only [bind_eq_error_iff, configOn_eq_error_iff, mapError_eq_error_iff]
  constructor
  · rintro ((⟨asked, hasked, hmissing, rfl⟩ | ⟨tree, cause, hfound, hunread, rfl⟩) |
      ⟨settings, hfound, cause, hwrong, rfl⟩)
    · exact .missing hasked hmissing
    · exact .unread hfound hunread
    · exact .wrong hfound hwrong
  · intro h
    cases h with
    | missing hasked hmissing => exact Or.inl (Or.inl ⟨_, hasked, hmissing, rfl⟩)
    | unread hfound hunread => exact Or.inl (Or.inr ⟨_, _, hfound, hunread, rfl⟩)
    | wrong hfound hwrong => exact Or.inr ⟨_, hfound, _, hwrong, rfl⟩

theorem templatePaths_isEmpty_iff {path : String} {entries : List (String × FileTree)} :
    (templatePaths path ((FileTree.filesOf entries).map Prod.fst)).isEmpty = true ↔
      ∀ file ∈ FileTree.filesOf entries,
        Template.isTemplatePath (Files.join path ("/".intercalate file.1)) = false := by
  rw [List.isEmpty_iff, List.eq_nil_iff_forall_not_mem]
  simp only [mem_templatePaths_iff]
  constructor
  · intro hnone file hfile
    have hpath := hnone (Files.join path ("/".intercalate file.1))
    exact Bool.eq_false_iff.mpr fun htemplate =>
      hpath ⟨⟨_, List.mem_map_of_mem hfile, rfl⟩, htemplate⟩
  · rintro hnone template ⟨⟨location, hlocation, rfl⟩, htemplate⟩
    obtain ⟨file, hfile, rfl⟩ := List.mem_map.mp hlocation
    rw [hnone file hfile] at htemplate
    cases htemplate

theorem filesOn_eq_error_iff {path : String} :
    filesOn disk path = .error failure ↔ FilesFail disk path failure := by
  have hpaths : filesOn disk path = .error failure ↔ pathsOn disk path = .error failure := by
    unfold filesOn
    cases pathsOn disk path <;> simp [Except.map]
  rw [hpaths]
  unfold pathsOn
  constructor
  · intro h
    split at h
    · rename_i hmissing
      cases h
      exact .missing hmissing
    · cases h
    · rename_i entries hdirectory
      dsimp only at h
      split at h
      · rename_i hempty
        cases h
        exact .empty hdirectory (templatePaths_isEmpty_iff.mp hempty)
      · cases h
  · intro h
    cases h with
    | missing hmissing => rw [hmissing]
    | empty hdirectory hempty =>
        rw [hdirectory]
        dsimp only
        rw [if_pos (templatePaths_isEmpty_iff.mpr hempty)]

theorem inputsOn_eq_error_iff {name : Option String} {path : String} :
    inputsOn environment disk name path = .error failure ↔
      SettingsFail environment disk name failure ∨
      ∃ settings, settingsOn environment disk name = .ok settings ∧
        FilesFail disk path failure := by
  rw [← settingsOn_eq_error_iff, ← filesOn_eq_error_iff]
  unfold inputsOn
  cases settingsOn environment disk name with
  | error first => simp [bind, Except.bind]
  | ok settings => cases filesOn disk path <;> simp [bind, Except.bind, pure, Except.pure]

/-! ## Templates -/

/-- The template in a file does not load, or cannot be carried out. -/
inductive TemplateFile.Fails (config : Config) (file : TemplateFile) : Failure → Prop
  | reading {cause : Error} (unread : file.template = .error cause) :
    Fails config file (.error (some (.reading file.path)) cause)
  | synthesizing {template : Template} {cause : Error} (loads : file.template = .ok template)
    (wrong : (Registry.aws.synthesize template config).result = .error cause) :
    Fails config file (.error (some (.synthesizing file.path)) cause)

/-- Carrying out all templates stops at a file: its template fails, or has the name of one
before it. -/
inductive StopsAt (config : Config) (files : List TemplateFile) : Failure → Prop
  | template {before after : List TemplateFile} {file : TemplateFile}
    {done : List SynthesizedFile} {failure : Failure} (place : files = before ++ file :: after)
    (earlier : GiveAll config before done) (different : (done.map (·.name)).Nodup)
    (fails : file.Fails config failure) : StopsAt config files failure
  | sameName {before after : List TemplateFile} {file : TemplateFile}
    {done : List SynthesizedFile} {previous next : SynthesizedFile}
    (place : files = before ++ file :: after) (earlier : GiveAll config before done)
    (different : (done.map (·.name)).Nodup) (gives : file.Gives config next)
    (among : previous ∈ done) (same : previous.name = next.name) :
    StopsAt config files (.sameName previous.path next.path next.name)

theorem TemplateFile.synthesize_eq_error_iff {file : TemplateFile} :
    file.synthesize config = .error failure ↔ file.Fails config failure := by
  simp only [synthesize, bind_eq_error_iff, mapError_eq_error_iff, mapError_eq_ok_iff]
  constructor
  · rintro (⟨cause, hunread, rfl⟩ | ⟨template, hloads, ⟨cause, hwrong, rfl⟩ | ⟨synth, -, hdone⟩⟩)
    · exact .reading hunread
    · exact .synthesizing hloads hwrong
    · cases hdone
  · intro h
    cases h with
    | reading hunread => exact Or.inl ⟨_, hunread, rfl⟩
    | synthesizing hloads hwrong => exact Or.inr ⟨_, hloads, Or.inl ⟨_, hwrong, rfl⟩⟩

/-- Where names are different, a name leads to one file. -/
theorem find?_name_eq_some_iff {before : List SynthesizedFile} {previous : SynthesizedFile}
    {name : String} (hbefore : (before.map (·.name)).Nodup) :
    before.find? (·.name = name) = some previous ↔ previous ∈ before ∧ previous.name = name := by
  constructor
  · intro h
    exact ⟨List.mem_of_find?_eq_some h, by simpa using List.find?_some h⟩
  · rintro ⟨hmem, hname⟩
    have hsome : (before.find? (·.name = name)).isSome = true :=
      List.find?_isSome.mpr ⟨previous, hmem, by simpa using hname⟩
    obtain ⟨other, hother⟩ := Option.isSome_iff_exists.mp hsome
    have hsame : other.name = name := by simpa using List.find?_some hother
    rw [hother, List.inj_on_of_nodup_map hbefore (List.mem_of_find?_eq_some hother) hmem
      (hsame.trans hname.symm)]

/-- One more file fails by itself, or because its name has been given before. -/
theorem addFile_eq_error_iff {before : List SynthesizedFile} {file : TemplateFile}
    (hbefore : (before.map (·.name)).Nodup) :
    addFile config before file = .error failure ↔ file.Fails config failure ∨
      ∃ next, file.Gives config next ∧ ∃ previous, (previous ∈ before ∧
        previous.name = next.name) ∧ .sameName previous.path next.path next.name = failure := by
  unfold addFile
  rw [bind_eq_error_iff, TemplateFile.synthesize_eq_error_iff]
  simp only [TemplateFile.synthesize_eq_ok_iff, ← find?_name_eq_some_iff hbefore]
  refine or_congr_right (exists_congr fun next => and_congr_right fun _ => ?_)
  cases before.find? (·.name = next.name) <;> simp [pure, Except.pure]

theorem synthesizeAll_eq_error_iff :
    synthesizeAll config files = .error failure ↔ StopsAt config files failure := by
  have hloop : synthesizeAll config files = files.foldlM (addFile config) [] := rfl
  rw [hloop, foldlM_eq_error_iff]
  constructor
  · rintro ⟨before, file, after, hplace, done, hbefore, hfile⟩
    obtain ⟨hearlier, hdifferent⟩ := synthesizeAll_eq_ok_iff.mp hbefore
    rcases (addFile_eq_error_iff hdifferent).mp hfile with
      hfails | ⟨next, hgives, previous, ⟨hamong, hsame⟩, rfl⟩
    · exact .template hplace hearlier hdifferent hfails
    · exact .sameName hplace hearlier hdifferent hgives hamong hsame
  · intro h
    cases h with
    | template hplace hearlier hdifferent hfails =>
        exact ⟨_, _, _, hplace, _, synthesizeAll_eq_ok_iff.mpr ⟨hearlier, hdifferent⟩,
          (addFile_eq_error_iff hdifferent).mpr (Or.inl hfails)⟩
    | sameName hplace hearlier hdifferent hgives hamong hsame =>
        exact ⟨_, _, _, hplace, _, synthesizeAll_eq_ok_iff.mpr ⟨hearlier, hdifferent⟩,
          (addFile_eq_error_iff hdifferent).mpr
            (Or.inr ⟨_, hgives, _, ⟨hamong, hsame⟩, rfl⟩)⟩

/-- Pricing stops at the first template that fails, whatever the names are. -/
theorem failure_costAfter_eq_some_iff {quiet : Bool} {lines : List String} {total : Binary64} :
    (costAfter quiet config lines total files).failure = some failure ↔
      ∃ before file after, files = before ++ file :: after ∧
        (∃ done, GiveAll config before done) ∧ file.Fails config failure := by
  induction files generalizing lines total with
  | nil => simp [costAfter, Report.success]
  | cons first rest ih =>
      rw [exists_place_cons_iff]
      simp only [exists_giveAll_iff, List.forall_mem_cons, ← TemplateFile.synthesize_eq_error_iff,
        ← TemplateFile.synthesize_eq_ok_iff] at ih ⊢
      unfold costAfter
      cases hfirst : first.synthesize config with
      | error found => simp
      | ok done => simpa using ih

theorem TemplateFile.exists_fails_iff {file : TemplateFile} :
    (∃ failure, file.Fails config failure) ↔
      (file.synthesize config).toOption.isNone = true := by
  simp only [← synthesize_eq_error_iff]
  cases file.synthesize config <;> simp [Except.toOption]

/-- Checking fails if a template does, and counts those that do. -/
theorem failure_validate_eq_some_iff {quiet : Bool} :
    (validate quiet config files).failure = some failure ↔
      (∃ file ∈ files, ∃ failure, file.Fails config failure) ∧ .invalidTemplates
        (files.filter fun file => (file.synthesize config).toOption.isNone).length files.length =
          failure := by
  have hsome : (∃ file ∈ files, ∃ failure, file.Fails config failure) ↔
      (files.filter fun file => (file.synthesize config).toOption.isNone).length ≠ 0 := by
    rw [ne_eq, List.length_eq_zero_iff, List.filter_eq_nil_iff]
    simp [TemplateFile.exists_fails_iff]
  rw [hsome]
  unfold validate
  dsimp only
  split
  · rename_i hfailed
    simp [hfailed]
  · rename_i hnone
    simp [hnone, Report.success]

/-! ## Whole runs -/

/-- What is wrong with the files on a disk so that a request fails. -/
inductive Invocation.Fails (environment : String → Option String) (disk : Disk)
    (invocation : Invocation) : Failure → Prop
  | settings {path : String} {failure : Failure} (request : invocation.request.path? = some path)
    (fails : SettingsFail environment disk invocation.config failure) :
    Fails environment disk invocation failure
  | files {path : String} {settings : Config} {failure : Failure}
    (request : invocation.request.path? = some path)
    (settings : settingsOn environment disk invocation.config = .ok settings)
    (fails : FilesFail disk path failure) : Fails environment disk invocation failure
  | synth {path : String} {output : Option String} {toStdout : Bool} {settings : Config}
    {files : List TemplateFile} {failure : Failure}
    (request : invocation.request = .synth path output toStdout)
    (inputs : inputsOn environment disk invocation.config path = .ok (settings, files))
    (stops : StopsAt settings files failure) : Fails environment disk invocation failure
  | write {path : String} {output : Option String} {settings : Config}
    {files : List TemplateFile} {done : List SynthesizedFile}
    (request : invocation.request = .synth path output false)
    (inputs : inputsOn environment disk invocation.config path = .ok (settings, files))
    (all : GiveAll settings files done) (different : (done.map (·.name)).Nodup)
    (unwritten : done.foldlM
      (writeDocument? { settings with outputDir := output.getD settings.outputDir }) disk = none) :
    Fails environment disk invocation (.error none .inputOutput)
  | cost {path : String} {settings : Config} {before after : List TemplateFile}
    {file : TemplateFile} {done : List SynthesizedFile} {failure : Failure}
    (request : invocation.request = .cost path)
    (inputs : inputsOn environment disk invocation.config path =
      .ok (settings, before ++ file :: after))
    (earlier : GiveAll settings before done) (fails : file.Fails settings failure) :
    Fails environment disk invocation failure
  | validate {path : String} {settings : Config} {files : List TemplateFile}
    (request : invocation.request = .validate path)
    (inputs : inputsOn environment disk invocation.config path = .ok (settings, files))
    (wrong : ∃ file ∈ files, ∃ failure, file.Fails settings failure) :
    Fails environment disk invocation (.invalidTemplates
      (files.filter fun file => (file.synthesize settings).toOption.isNone).length files.length)

section Whole

variable {invocation : Invocation} {path : String} {settings : Config}

/-- Writing or printing documents fails where a template or a name does, and writing where
that cannot be done. -/
theorem failure_report_synth_iff {output : Option String} {toStdout : Bool}
    (hrequest : invocation.request = .synth path output toStdout)
    (hinputs : inputsOn environment disk invocation.config path = .ok (settings, files)) :
    ((invocation.report environment : StateM Disk Report).run disk).1.failure = some failure ↔
      StopsAt settings files failure ∨ toStdout = false ∧ ∃ done, (GiveAll settings files done ∧
        (done.map (·.name)).Nodup) ∧ done.foldlM (writeDocument? { settings with
          outputDir := output.getD settings.outputDir }) disk = none ∧
        .error none .inputOutput = failure := by
  -- where documents go does not matter for carrying out the templates
  have hsame : synthesizeAll { settings with outputDir := output.getD settings.outputDir } files =
      synthesizeAll settings files := rfl
  unfold Invocation.report
  rw [hrequest, run_withInputs_of_ok hinputs, ← synthesizeAll_eq_error_iff]
  simp only [← synthesizeAll_eq_ok_iff]
  cases toStdout with
  | true =>
      show (printDocuments _ _ files).failure = some failure ↔ _
      unfold printDocuments
      rw [hsame]
      cases synthesizeAll settings files <;> simp [Report.success]
  | false =>
      show ((writeDocuments _ _ files : StateM Disk Report).run disk).1.failure = some failure ↔ _
      unfold writeDocuments
      rw [hsame]
      cases hall : synthesizeAll settings files with
      | error found =>
          show some found = some failure ↔ _
          simp
      | ok done =>
          cases hwrite : done.foldlM (writeDocument? { settings with
              outputDir := output.getD settings.outputDir }) disk with
          | none => simp [failure_writeAll_of_none hwrite, hwrite]
          | some after => simp [run_writeAll_of_some hwrite, hwrite, Report.success]

theorem failure_report_cost_iff (hrequest : invocation.request = .cost path)
    (hinputs : inputsOn environment disk invocation.config path = .ok (settings, files)) :
    ((invocation.report environment : StateM Disk Report).run disk).1.failure = some failure ↔
      ∃ before file after, files = before ++ file :: after ∧
        (∃ done, GiveAll settings before done) ∧ file.Fails settings failure := by
  unfold Invocation.report
  rw [hrequest, run_withInputs_of_ok hinputs]
  exact failure_costAfter_eq_some_iff

theorem failure_report_validate_iff (hrequest : invocation.request = .validate path)
    (hinputs : inputsOn environment disk invocation.config path = .ok (settings, files)) :
    ((invocation.report environment : StateM Disk Report).run disk).1.failure = some failure ↔
      (∃ file ∈ files, ∃ failure, file.Fails settings failure) ∧ .invalidTemplates
        (files.filter fun file => (file.synthesize settings).toOption.isNone).length files.length =
          failure := by
  unfold Invocation.report
  rw [hrequest, run_withInputs_of_ok hinputs]
  exact failure_validate_eq_some_iff

/-- **What a run reports is what is wrong.** -/
theorem failure_report_iff :
    ((invocation.report environment : StateM Disk Report).run disk).1.failure = some failure ↔
      invocation.Fails environment disk failure := by
  constructor
  · intro h
    cases hpath : invocation.request.path? with
    | none =>
        -- only the list of types needs no path, and it never fails
        cases hrequest : invocation.request <;> rw [hrequest] at hpath <;> cases hpath
        unfold Invocation.report at h
        rw [hrequest] at h
        cases h
    | some path =>
        cases hinputs : inputsOn environment disk invocation.config path with
        | error found =>
            rw [run_report_of_error hpath hinputs] at h
            obtain rfl : found = failure := Option.some.inj h
            rcases inputsOn_eq_error_iff.mp hinputs with hfails | ⟨settings, hsettings, hfails⟩
            · exact .settings hpath hfails
            · exact .files hpath hsettings hfails
        | ok inputs =>
            obtain ⟨settings, files⟩ := inputs
            cases hrequest : invocation.request <;> rw [hrequest] at hpath <;> cases hpath
            · rcases (failure_report_synth_iff hrequest hinputs).mp h with
                hstops | ⟨rfl, done, ⟨hall, hdifferent⟩, hunwritten, rfl⟩
              · exact .synth hrequest hinputs hstops
              · exact .write hrequest hinputs hall hdifferent hunwritten
            · obtain ⟨hwrong, rfl⟩ := (failure_report_validate_iff hrequest hinputs).mp h
              exact .validate hrequest hinputs hwrong
            · obtain ⟨before, file, after, rfl, ⟨done, hearlier⟩, hfails⟩ :=
                (failure_report_cost_iff hrequest hinputs).mp h
              exact .cost hrequest hinputs hearlier hfails
  · intro h
    cases h with
    | settings hpath hfails =>
        rw [run_report_of_error hpath (inputsOn_eq_error_iff.mpr (Or.inl hfails))]
    | files hpath hsettings hfails =>
        rw [run_report_of_error hpath
          (inputsOn_eq_error_iff.mpr (Or.inr ⟨_, hsettings, hfails⟩))]
    | synth hrequest hinputs hstops =>
        exact (failure_report_synth_iff hrequest hinputs).mpr (Or.inl hstops)
    | write hrequest hinputs hall hdifferent hunwritten =>
        exact (failure_report_synth_iff hrequest hinputs).mpr
          (Or.inr ⟨rfl, _, ⟨hall, hdifferent⟩, hunwritten, rfl⟩)
    | cost hrequest hinputs hearlier hfails =>
        exact (failure_report_cost_iff hrequest hinputs).mpr
          ⟨_, _, _, rfl, ⟨_, hearlier⟩, hfails⟩
    | validate hrequest hinputs hwrong =>
        exact (failure_report_validate_iff hrequest hinputs).mpr ⟨hwrong, rfl⟩

end Whole

end InfraSynth.Command
