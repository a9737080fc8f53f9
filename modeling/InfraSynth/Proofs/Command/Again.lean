import InfraSynth.Proofs.Command.DocumentText
import InfraSynth.Proofs.Command.Writing

/-!
# Running a command again

A command that has written documents is run once more on what it left behind.  The
second run finds what the first one found unless a document is among the templates, or
the place of the configuration file has been taken.  It then does nothing, and
otherwise it fails: `Invocation.synth_again`.

## Strategy

What has been written before is written again without a change,
`foldlM_writeDocument?_eq_self`, so everything depends on what is found.  If no
document is below the directory with the templates, the same files are there with the
same texts, `filesOn_eq`.  If one is, it has the name of a template and is none,
`not_giveAll_of_prefix`.
-/

open InfraSynth.Outcome (bind_eq_ok_iff map_eq_ok_iff mapError_eq_ok_iff)

namespace InfraSynth.Command

open Files (Disk FileTree IsFileName Location)
open Files.Disk (Keeps MakesDirectory SameFilesBelow)

variable {environment : String → Option String} {disk after : Disk} {config : Config}
  {path : String} {base place : Location} {files : List TemplateFile} {done : List SynthesizedFile}

/-! ## What the first run leaves behind -/

/-- What has been written is written again without a change. -/
theorem foldlM_writeDocument?_eq_self (hnames : ∀ file ∈ done, Name.IsAllowed file.name)
    (hplace : disk.locate? config.outputDir = some place)
    (hdocuments : ∀ file ∈ done,
      disk.node? (place ++ [file.fileName]) = some (.file (some file.text))) :
    done.foldlM (writeDocument? config) disk = some disk := by
  induction done with
  | nil => rfl
  | cons file others ih =>
      obtain ⟨hname, hothers⟩ := List.forall_mem_cons.mp hnames
      obtain ⟨hdocument, hrest⟩ := List.forall_mem_cons.mp hdocuments
      have hdirectory := Disk.directory_of_file (List.cons_ne_nil _ _) hdocument
      have hmake : makeOutputDir? config disk = some disk := by
        unfold makeOutputDir?
        split
        · rfl
        · exact Disk.makeDirectories?_eq_self hplace hdirectory
      have hfile : writeDocument? config disk file = some disk := by
        unfold writeDocument?
        rw [hmake]
        exact Disk.write?_eq_self (isFileName_fileName hname) hplace hdocument
      rw [List.foldlM_cons, hfile]
      exact ih hothers hrest

/-- Documents that go elsewhere leave the files below a directory as they are. -/
theorem sameFilesBelow_of_foldlM (hnames : ∀ file ∈ done, Name.IsAllowed file.name)
    (hbase : disk.node? base = some .directory)
    (hnot : ∀ place, after.locate? config.outputDir = some place → ¬base <+: place)
    (h : done.foldlM (writeDocument? config) disk = some after) :
    SameFilesBelow base disk after := by
  induction done generalizing disk with
  | nil =>
      cases h
      exact fun sub hsub => ⟨sub, hsub, rfl⟩
  | cons file others ih =>
      obtain ⟨hname, hothers⟩ := List.forall_mem_cons.mp hnames
      rw [List.foldlM_cons, Option.bind_eq_bind, Option.bind_eq_some_iff] at h
      obtain ⟨next, hnext, hlast⟩ := h
      obtain ⟨mid, place, hmade, hpath, hdirectory, hputs⟩ := of_writeDocument? hname hnext
      have hmid := (Disk.keeps_of_makesDirectory hmade).directory _ hbase
      have hlater := keeps_of_foldlM hothers hlast
      have hplace : ¬base <+: place := hnot place ((hputs.keeps.trans hlater).locate? hpath)
      have htarget : ¬base <+: place ++ [file.fileName] := by
        intro hinside
        rcases List.prefix_concat_iff.mp hinside with heq | hinside
        · exact hputs.free (heq ▸ hmid)
        · exact hplace hinside
      have hmade' : disk.SameFilesBelow base mid := Disk.sameFilesBelow_of_makesDirectory base hmade
      have hnext : mid.SameFilesBelow base next := hputs.sameFilesBelow htarget
      have hafter : next.SameFilesBelow base after :=
        ih hothers (hputs.keeps.directory _ hmid) hlast
      exact (hmade'.trans hnext).trans hafter

/-- The trees stay proper. -/
theorem proper_of_foldlM (hnames : ∀ file ∈ done, Name.IsAllowed file.name)
    (hdisk : disk.root.Proper) (h : done.foldlM (writeDocument? config) disk = some after) :
    after.root.Proper := by
  induction done generalizing disk with
  | nil =>
      cases h
      exact hdisk
  | cons file others ih =>
      obtain ⟨hname, hothers⟩ := List.forall_mem_cons.mp hnames
      rw [List.foldlM_cons, Option.bind_eq_bind, Option.bind_eq_some_iff] at h
      obtain ⟨next, hnext, hlast⟩ := h
      obtain ⟨mid, place, hmade, -, hdirectory, hputs⟩ := of_writeDocument? hname hnext
      have hmid := Disk.proper_of_makesDirectory hmade hdisk
      exact ih hothers (hputs.proper hmid (isFileName_fileName hname) hdirectory) hlast

/-! ## What the second run finds -/

theorem pathsOn_directory {entries : List (String × FileTree)}
    (h : disk.tree? path = some (.directory entries)) :
    pathsOn disk path =
      let paths := templatePaths path ((FileTree.filesOf entries).map Prod.fst)
      if paths.isEmpty then .error (.noTemplates path) else .ok paths := by
  rw [pathsOn, h]

theorem tree?_eq_of_locate? {location : Location} (h : disk.locate? path = some location) :
    disk.tree? path = FileTree.at? location disk.root := by
  unfold Disk.tree?
  rw [h]
  rfl

theorem fileOn_eq {location : Location} {text : Option String}
    (h : disk.locate? path = some location) (hfile : disk.node? location = some (.file text)) :
    fileOn disk path = ⟨path, text⟩ := by
  unfold fileOn
  rw [tree?_eq_of_locate? h, FileTree.node?_eq_file_iff.mp hfile]
  rfl

/-- The names of a file below a directory lead to it. -/
theorem locate?_join_of_file {found : Location} {text : Option String}
    (hdisk : disk.root.Proper) (hbase : disk.locate? path = some base) (hne : found ≠ [])
    (hfile : disk.node? (base ++ found) = some (.file text)) :
    disk.locate? (Files.join path ("/".intercalate found)) = some (base ++ found) := by
  have hnames : ∀ name ∈ found, IsFileName name := fun name hname =>
    (hdisk.at? (FileTree.node?_eq_file_iff.mp hfile)).2 name (List.mem_append_right _ hname)
  exact Disk.locate?_join hne hnames hbase (by simp [hfile])

/-- If no document is below a directory, the same templates are found there. -/
theorem filesOn_eq (hdisk : disk.root.Proper) (hbase : disk.locate? path = some base)
    (hdirectory : disk.node? base = some .directory) (hkeeps : Keeps disk after)
    (hsame : SameFilesBelow base disk after)
    (hspares : ∀ rest, rest ≠ [] → disk.Spares after (base ++ rest)) :
    filesOn after path = filesOn disk path := by
  obtain ⟨entries, hentries⟩ := FileTree.node?_eq_directory_iff.mp hdirectory
  obtain ⟨others, hothers⟩ :=
    FileTree.node?_eq_directory_iff.mp (hkeeps.directory _ hdirectory)
  have hfiles : FileTree.filesOf others = FileTree.filesOf entries := by
    obtain ⟨inner, hinner, hfiles⟩ := hsame _ hentries
    obtain rfl : inner = .directory others := Option.some.inj (hinner.symm.trans hothers)
    exact hfiles
  have hpaths : pathsOn after path = pathsOn disk path := by
    rw [pathsOn_directory ((tree?_eq_of_locate? hbase).trans hentries),
      pathsOn_directory ((tree?_eq_of_locate? (hkeeps.locate? hbase)).trans hothers), hfiles]
  unfold filesOn
  rw [hpaths, pathsOn_directory ((tree?_eq_of_locate? hbase).trans hentries)]
  dsimp only
  split
  · rfl
  · refine congrArg Except.ok (List.map_congr_left fun template htemplate => ?_)
    -- every path leads to a file below the directory
    obtain ⟨⟨location, hlocation, rfl⟩, -⟩ := mem_templatePaths_iff.mp htemplate
    obtain ⟨⟨found, text⟩, hfile, heq⟩ := List.mem_map.mp hlocation
    obtain rfl : found = location := heq
    have hplace : FileTree.at? (base ++ found) disk.root = some (.file text) := by
      rw [FileTree.at?_append, hentries]
      exact (hdisk.at? hentries).1.at?_of_mem_files hfile
    have hne : found ≠ [] := by
      rintro rfl
      rw [List.append_nil, hentries] at hplace
      cases hplace
    have hnode : disk.node? (base ++ found) = some (.file text) :=
      FileTree.node?_eq_file_iff.mpr hplace
    have hpath := locate?_join_of_file hdisk hbase hne hnode
    rw [fileOn_eq hpath hnode, fileOn_eq (hkeeps.locate? hpath)
      ((hspares found hne).node?_eq_file_iff.mpr hnode)]

/-- A file below a directory whose path is that of a template is among those found. -/
theorem mem_of_filesOn_eq_ok {found : Location} {text : Option String}
    (hdisk : disk.root.Proper) (hbase : disk.locate? path = some base) (hne : found ≠ [])
    (hfile : disk.node? (base ++ found) = some (.file text))
    (htemplate : Template.isTemplatePath (Files.join path ("/".intercalate found)) = true)
    (hfiles : filesOn disk path = .ok files) :
    ⟨Files.join path ("/".intercalate found), text⟩ ∈ files := by
  have hplace := FileTree.node?_eq_file_iff.mp hfile
  have hdirectory : disk.node? base = some .directory :=
    FileTree.node?_of_append hne (ne_of_eq_of_ne hfile (Option.some_ne_none _))
  obtain ⟨entries, hentries⟩ := FileTree.node?_eq_directory_iff.mp hdirectory
  have hbelow : (found, text) ∈ FileTree.filesOf entries := by
    rw [FileTree.at?_append, show FileTree.at? base disk.root = _ from hentries] at hplace
    exact FileTree.mem_files_of_at? hplace
  have hmem : Files.join path ("/".intercalate found) ∈
      templatePaths path ((FileTree.filesOf entries).map Prod.fst) :=
    mem_templatePaths_iff.mpr ⟨⟨found, List.mem_map_of_mem hbelow, rfl⟩, htemplate⟩
  obtain ⟨paths, hpaths, rfl⟩ := map_eq_ok_iff.mp hfiles
  rw [pathsOn_directory ((tree?_eq_of_locate? hbase).trans hentries)] at hpaths
  dsimp only at hpaths
  split at hpaths
  · cases hpaths
  · cases hpaths
    rw [← fileOn_eq (locate?_join_of_file hdisk hbase hne hfile) hfile]
    exact List.mem_map_of_mem hmem

/-- A document below a directory is taken for a template, and is none. -/
theorem not_giveAll_of_prefix {found : List TemplateFile} {source : TemplateFile}
    {file : SynthesizedFile} {other : Config} (hafter : after.root.Proper)
    (hbase : after.locate? path = some base) (hinside : base <+: place)
    (hgives : source.Gives config file)
    (hdocument : after.node? (place ++ [file.fileName]) = some (.file (some file.text)))
    (hfound : filesOn after path = .ok found) : ¬GiveAll other found done := by
  obtain ⟨rest, rfl⟩ := hinside
  rw [List.append_assoc] at hdocument
  have hplace := FileTree.node?_eq_file_iff.mp hdocument
  have hnames : ∀ name ∈ rest, IsFileName name := fun name hname =>
    (hafter.at? hplace).2 name (List.mem_append_right _ (List.mem_append_left _ hname))
  have hformat := ofPath?_join (isFileName_fileName hgives.isAllowed_name) path hnames
  have hmem := mem_of_filesOn_eq_ok hafter hbase (by simp) hdocument
    (by rw [Template.isTemplatePath, hformat]; rfl) hfound
  intro hall
  obtain ⟨template, htemplate⟩ := exists_giveAll_iff.mp ⟨_, hall⟩ _ hmem
  have hloads := htemplate.loads
  rw [TemplateFile.template, hformat] at hloads
  exact ofJsonText_text_ne_ok hgives _ hloads

/-- Wherever a document is not, there is what was there before. -/
theorem HasDocuments.holds_or_spares (h : HasDocuments done disk after place)
    (location : Location) :
    (∃ file ∈ done, after.node? location = some (.file (some file.text))) ∨
      disk.Spares after location := by
  by_cases hdone : ∃ file ∈ done, location = place ++ [file.fileName]
  · obtain ⟨file, hfile, rfl⟩ := hdone
    exact Or.inl ⟨file, hfile, h.document file hfile⟩
  · exact Or.inr (h.others location fun file hfile heq => hdone ⟨file, hfile, heq⟩)

theorem configOn_none_of_tree? (h : disk.tree? configFile = none) :
    configOn disk none = .ok .default := by
  unfold configOn
  rw [Option.getD_none, h]

theorem configOn_of_tree? {name : Option String} {tree : FileTree}
    (h : disk.tree? (name.getD configFile) = some tree) :
    configOn disk name = (configOfText tree.text?).mapError (.error (name.map .loading)) := by
  unfold configOn
  rw [h]
  cases name <;> rfl

/-- A configuration is read from a file with a text. -/
theorem exists_file_of_configOn_eq_ok {name : Option String} {tree : FileTree} {settings : Config}
    (htree : disk.tree? (name.getD configFile) = some tree)
    (hok : configOn disk name = .ok settings) :
    ∃ location text, disk.locate? (name.getD configFile) = some location ∧
      disk.node? location = some (.file (some text)) ∧ tree = .file (some text) ∧
      Config.ofTomlText text = .ok settings := by
  rw [configOn_of_tree? htree, mapError_eq_ok_iff] at hok
  obtain ⟨location, hlocation, hat⟩ := Option.bind_eq_some_iff.mp htree
  cases htext : tree.text? with
  | none =>
      rw [htext] at hok
      cases hok
  | some text =>
      rw [htext] at hok
      have hfile : tree = .file (some text) := by
        cases tree with
        | file found => exact congrArg FileTree.file htext
        | directory entries => cases htext
      subst hfile
      exact ⟨location, text, hlocation, FileTree.node?_eq_file_iff.mpr hat, rfl, hok⟩

theorem isFileName_configFile : IsFileName configFile :=
  ⟨by decide +kernel, by decide, by decide, by decide⟩

/-- Where a configuration is read after the documents have been written there is no
document, but the file that was there before. -/
theorem exists_earlier_file {name : Option String} {tree : FileTree} {settings : Config}
    (hdocuments : HasDocuments done disk after place)
    (hgives : ∀ file ∈ done, ∃ source : TemplateFile, source.Gives config file)
    (htree : after.tree? (name.getD configFile) = some tree)
    (hok : configOn after name = .ok settings) :
    ∃ location text, after.locate? (name.getD configFile) = some location ∧
      disk.node? location = some (.file (some text)) ∧ tree = .file (some text) := by
  obtain ⟨location, text, hlocation, hfile, rfl, hread⟩ := exists_file_of_configOn_eq_ok htree hok
  refine ⟨location, text, hlocation, ?_, rfl⟩
  rcases hdocuments.holds_or_spares location with ⟨file, hmem, hdocument⟩ | hspared
  · obtain ⟨source, hsource⟩ := hgives file hmem
    obtain rfl : text = file.text := by simpa [hfile] using hdocument
    exact absurd hread (ofTomlText_text_ne_ok hsource _)
  · exact hspared.node?_eq_file_iff.mp hfile

/-- A configuration file that can still be read is the one that there was: a document
in its place could not be read. -/
theorem configOn_eq_of_ok {name : Option String} {first second : Config}
    (hkeeps : Keeps disk after) (hdocuments : HasDocuments done disk after place)
    (hgives : ∀ file ∈ done, ∃ source : TemplateFile, source.Gives config file)
    (hfirst : configOn disk name = .ok first) (hsecond : configOn after name = .ok second) :
    configOn after name = configOn disk name := by
  cases htree : disk.tree? (name.getD configFile) with
  | some tree =>
      obtain ⟨location, text, hlocation, hfile, rfl, -⟩ :=
        exists_file_of_configOn_eq_ok htree hfirst
      have hlater := hkeeps.locate? hlocation
      have hsome : FileTree.at? location after.root ≠ none := by
        refine mt FileTree.node?_eq_none_iff.mpr (hkeeps.something location ?_)
        simp [hfile]
      obtain ⟨inner, hinner⟩ := Option.ne_none_iff_exists'.mp hsome
      have hafter := (tree?_eq_of_locate? hlater).trans hinner
      obtain ⟨found, other, hfound, hother, rfl⟩ :=
        exists_earlier_file hdocuments hgives hafter hsecond
      obtain rfl : location = found := Option.some.inj (hlater.symm.trans hfound)
      obtain rfl : text = other := by simpa [hfile] using hother
      rw [configOn_of_tree? htree, configOn_of_tree? hafter]
  | none =>
      cases name with
      | some path =>
          unfold configOn at hfirst
          rw [htree] at hfirst
          cases hfirst
      | none =>
          cases hafter : after.tree? (Option.getD none configFile) with
          | none => rw [configOn_none_of_tree? hafter, configOn_none_of_tree? htree]
          | some tree =>
              -- a file that is there after the run was there before
              obtain ⟨location, text, hlocation, hfile, -⟩ :=
                exists_earlier_file hdocuments hgives hafter hsecond
              obtain ⟨rfl, -⟩ := (Disk.locate?_name_eq_some_iff isFileName_configFile).mp hlocation
              rw [hkeeps.here] at hfile
              have hearlier : disk.locate? configFile = some (disk.here ++ [configFile]) :=
                (Disk.locate?_name_eq_some_iff isFileName_configFile).mpr ⟨rfl, by simp [hfile]⟩
              rw [Option.getD_none, tree?_eq_of_locate? hearlier,
                FileTree.node?_eq_file_iff.mp hfile] at htree
              cases htree

/-! ## Both runs -/

/-- A run that is to write the documents of the templates at a path has succeeded. -/
structure Invocation.Writes (environment : String → Option String) (invocation : Invocation)
    (path : String) (output : Option String) (settings : Config) (files : List TemplateFile)
    (disk : Disk) (report : Report) (after : Disk) : Prop where
  request : invocation.request = .synth path output false
  inputs : inputsOn environment disk invocation.config path = .ok (settings, files)
  run : (invocation.report environment : StateM Disk Report).run disk = (report, after)
  success : report.failure = none

namespace Invocation.Writes

variable {invocation : Invocation} {output : Option String} {settings : Config} {report : Report}

theorem exists_done
    (h : Writes environment invocation path output settings files disk report after) :
    ∃ done, done ≠ [] ∧
      GiveAll { settings with outputDir := output.getD settings.outputDir } files done ∧
      (done.map (·.name)).Nodup ∧
      done.foldlM (writeDocument? { settings with outputDir := output.getD settings.outputDir })
        disk = some after ∧
      report = .success (writtenLines invocation.quiet
        { settings with outputDir := output.getD settings.outputDir } done) := by
  have hrun := h.run
  rw [run_report_synth h.request h.inputs] at hrun
  obtain ⟨done, hdone, hnodup, hwrite, hreport⟩ := exists_done_of_success hrun h.success
  have hne := hdone.ne_nil (ne_nil_of_filesOn_eq_ok (inputsOn_eq_ok_iff.mp h.inputs).2)
  exact ⟨done, hne, hdone, hnodup, hwrite, hreport⟩

/-- If the same is found, the second run does the same and changes nothing. -/
theorem run_again (h : Writes environment invocation path output settings files disk report after)
    (hinputs : inputsOn environment after invocation.config path = .ok (settings, files)) :
    (invocation.report environment : StateM Disk Report).run after = (report, after) := by
  obtain ⟨done, hne, hdone, hnodup, hwrite, rfl⟩ := h.exists_done
  obtain ⟨hlocated, hdocuments⟩ :=
    of_foldlM_writeDocument? hdone.isAllowed_name (nodup_fileName hnodup) hwrite
  obtain ⟨place, hplace⟩ := hlocated hne
  have hsame := foldlM_writeDocument?_eq_self hdone.isAllowed_name hplace
    (hdocuments place hplace).document
  rw [run_report_synth h.request hinputs, writeDocuments,
    synthesizeAll_eq_ok_iff.mpr ⟨hdone, hnodup⟩]
  exact run_writeAll_of_some hsame

/-- The same is found if the configuration is, and no document is among the templates. -/
theorem inputsOn_again
    (h : Writes environment invocation path output settings files disk report after)
    (hdisk : disk.root.Proper) (hbase : disk.locate? path = some base)
    (hdirectory : disk.node? base = some .directory)
    (hplace : after.locate? (output.getD settings.outputDir) = some place)
    (hconfig : configOn after invocation.config = configOn disk invocation.config)
    (hnot : ¬base <+: place) :
    inputsOn environment after invocation.config path = .ok (settings, files) := by
  obtain ⟨done, -, hdone, hnodup, hwrite, -⟩ := h.exists_done
  have hnames := hdone.isAllowed_name
  have hdocuments :=
    (of_foldlM_writeDocument? hnames (nodup_fileName hnodup) hwrite).2 place hplace
  obtain ⟨hsettings, hfiles⟩ := inputsOn_eq_ok_iff.mp h.inputs
  -- the documents are outside the directory, so it holds the same files as before
  have hsame : Disk.SameFilesBelow base disk after := by
    refine sameFilesBelow_of_foldlM hnames hdirectory (fun other hother => ?_) hwrite
    obtain rfl : place = other := Option.some.inj (hplace.symm.trans hother)
    exact hnot
  have hspares : ∀ rest, rest ≠ [] → disk.Spares after (base ++ rest) := by
    intro rest hrest
    refine hdocuments.others _ fun file _ heq => ?_
    have hinside : base <+: place ++ [file.fileName] := heq ▸ List.prefix_append base rest
    rcases List.prefix_concat_iff.mp hinside with hbase | hbelow
    · rw [← hbase, List.append_right_eq_self] at heq
      exact hrest heq
    · exact hnot hbelow
  refine inputsOn_eq_ok_iff.mpr ⟨?_, ?_⟩
  · rw [← hsettings, settingsOn, settingsOn, hconfig]
  · rw [← hfiles]
    exact filesOn_eq hdisk hbase hdirectory (keeps_of_foldlM hnames hwrite) hsame hspares

/-- A second run that succeeds has found the same configuration, and no document. -/
theorem of_run_again
    (h : Writes environment invocation path output settings files disk report after)
    (hdisk : disk.root.Proper) (hbase : disk.locate? path = some base)
    (hplace : after.locate? (output.getD settings.outputDir) = some place)
    (hagain : ((invocation.report environment : StateM Disk Report).run after).1.failure = none) :
    configOn after invocation.config = configOn disk invocation.config ∧ ¬base <+: place := by
  obtain ⟨done, hne, hdone, hnodup, hwrite, -⟩ := h.exists_done
  have hnames := hdone.isAllowed_name
  have hkeeps := keeps_of_foldlM hnames hwrite
  have hdocuments :=
    (of_foldlM_writeDocument? hnames (nodup_fileName hnodup) hwrite).2 place hplace
  obtain ⟨hsettings, -⟩ := inputsOn_eq_ok_iff.mp h.inputs
  cases hinputs : inputsOn environment after invocation.config path with
  | error failure =>
      rw [run_report_of_error (by rw [h.request]; rfl) hinputs] at hagain
      cases hagain
  | ok inputs =>
      obtain ⟨settings', files'⟩ := inputs
      obtain ⟨hsettings', hfiles'⟩ := inputsOn_eq_ok_iff.mp hinputs
      obtain ⟨done', hdone', -⟩ :=
        exists_done_of_success (run_report_synth h.request hinputs).symm hagain
      obtain ⟨first, hfirst, -⟩ := bind_eq_ok_iff.mp hsettings
      obtain ⟨second, hsecond, -⟩ := bind_eq_ok_iff.mp hsettings'
      refine ⟨configOn_eq_of_ok hkeeps hdocuments hdone.exists_gives hfirst hsecond,
        fun hinside => ?_⟩
      -- a document inside the directory would have been read as a template
      obtain ⟨file, hfile⟩ := List.exists_mem_of_ne_nil done hne
      obtain ⟨source, hgives⟩ := hdone.exists_gives file hfile
      exact not_giveAll_of_prefix (proper_of_foldlM hnames hdisk hwrite)
        (hkeeps.locate? hbase) hinside hgives (hdocuments.document file hfile) hfiles' hdone'

end Invocation.Writes

/-- **A run on what it left behind.**  The second run succeeds exactly if the
configuration is found as before and no document is below the directory with the
templates; then it prints the same and leaves everything as it is. -/
theorem Invocation.synth_again {invocation : Invocation} {output : Option String}
    {settings : Config} {report : Report}
    (h : Writes environment invocation path output settings files disk report after)
    (hdisk : disk.root.Proper) (hbase : disk.locate? path = some base)
    (hdirectory : disk.node? base = some .directory)
    (hplace : after.locate? (output.getD settings.outputDir) = some place) :
    let again := (invocation.report environment : StateM Disk Report).run after
    (again.1.failure = none ↔
      configOn after invocation.config = configOn disk invocation.config ∧ ¬base <+: place) ∧
    (again.1.failure = none → again = (report, after)) := by
  have hsame : configOn after invocation.config = configOn disk invocation.config ∧
      ¬base <+: place →
      (invocation.report environment : StateM Disk Report).run after = (report, after) := by
    rintro ⟨hconfig, hnot⟩
    exact h.run_again (h.inputsOn_again hdisk hbase hdirectory hplace hconfig hnot)
  refine ⟨⟨h.of_run_again hdisk hbase hplace, fun hfound => ?_⟩, fun hagain => ?_⟩
  · rw [hsame hfound]
    exact h.success
  · exact hsame (h.of_run_again hdisk hbase hplace hagain)

/-! ## Two templates and a directory for their documents -/

theorem proper_twoTemplates : twoTemplates.root.Proper := by
  have hwork : IsFileName "work" := ⟨by decide +kernel, by decide, by decide, by decide⟩
  have hyaml : IsFileName "a.yaml" := ⟨by decide +kernel, by decide, by decide, by decide⟩
  have hjson : IsFileName "b.json" := ⟨by decide +kernel, by decide, by decide, by decide⟩
  unfold twoTemplates
  refine .directory (by decide +kernel) (List.forall_mem_singleton.mpr hwork) ?_
  refine List.forall_mem_singleton.mpr (.directory (by decide +kernel) ?_ ?_)
  · exact List.forall_mem_cons.mpr ⟨hyaml, List.forall_mem_singleton.mpr hjson⟩
  · exact List.forall_mem_cons.mpr ⟨.file _, List.forall_mem_singleton.mpr (.file _)⟩

/-- What the first run does with the two templates. -/
def twoTemplatesWritten (output : Option String) : Report × Disk :=
  (writeDocuments false { Config.default with
    outputDir := output.getD Config.default.outputDir } twoFiles : StateM Disk Report).run
    twoTemplates

theorem run_report_twoTemplates (output : Option String) :
    ((Invocation.plain (.synth "." output false)).report fun _ => none : StateM Disk Report).run
      twoTemplates = twoTemplatesWritten output := by
  have hrequest : (Invocation.plain (.synth "." output false)).request =
    .synth "." output false := rfl
  exact run_report_synth hrequest inputsOn_twoTemplates

theorem writes_twoTemplates {output : Option String} {written : Report × Disk}
    (hwritten : twoTemplatesWritten output = written) (hsuccess : written.1.failure = none) :
    Invocation.Writes (fun _ => none) (.plain (.synth "." output false)) "." output .default
      twoFiles twoTemplates written.1 written.2 := by
  have hrequest : (Invocation.plain (.synth "." output false)).request =
    .synth "." output false := rfl
  have hrun := run_report_twoTemplates output
  rw [hwritten] at hrun
  exact ⟨hrequest, inputsOn_twoTemplates, hrun, hsuccess⟩

/-- The documents go to a directory beside the one with the templates: the second run
does nothing. -/
theorem Invocation.synth_again_beside :
    let run := ((plain (.synth "." (some "../out") false)).report fun _ => none :
      StateM Disk Report).run
    (run twoTemplates).1.failure = none ∧ run (run twoTemplates).2 = run twoTemplates := by
  intro run
  have hrun : run twoTemplates = _ := run_report_twoTemplates _
  have hsuccess : (twoTemplatesWritten (some "../out")).1.failure = none := by decide +kernel
  have hplace : (twoTemplatesWritten (some "../out")).2.locate? "../out" = some ["out"] := by
    decide +kernel
  have hnone : ((twoTemplatesWritten (some "../out")).2.tree? configFile).isNone = true := by
    decide +kernel
  rw [hrun]
  -- the disk of the first run is named, since nothing opens it from here on
  generalize hwritten : twoTemplatesWritten (some "../out") = written at *
  have hwrites := writes_twoTemplates hwritten hsuccess
  have hconfig : configOn written.2 none = configOn twoTemplates none :=
    configOn_none_of_tree? (Option.isNone_iff_eq_none.mp hnone)
  have hbase : twoTemplates.locate? "." = some ["work"] := rfl
  obtain ⟨hagain, hsame⟩ := Invocation.synth_again hwrites proper_twoTemplates hbase rfl hplace
  exact ⟨hsuccess, hsame (hagain.mpr ⟨hconfig, by decide⟩)⟩

/-- The documents go below the directory with the templates, as they do unless another
directory is named: the second run takes them for templates and fails. -/
theorem Invocation.synth_again_below :
    let run := ((plain (.synth "." none false)).report fun _ => none : StateM Disk Report).run
    (run twoTemplates).1.failure = none ∧ (run (run twoTemplates).2).1.failure ≠ none := by
  intro run
  have hrun : run twoTemplates = _ := run_report_twoTemplates _
  have hsuccess : (twoTemplatesWritten none).1.failure = none := by decide +kernel
  have hplace : (twoTemplatesWritten none).2.locate? "terraform" = some ["work", "terraform"] := by
    decide +kernel
  rw [hrun]
  generalize hwritten : twoTemplatesWritten none = written at *
  have hwrites := writes_twoTemplates hwritten hsuccess
  have hbase : twoTemplates.locate? "." = some ["work"] := rfl
  refine ⟨hsuccess, fun hagain => ?_⟩
  obtain ⟨-, hnot⟩ := hwrites.of_run_again proper_twoTemplates hbase hplace hagain
  exact hnot (by decide)

end InfraSynth.Command
