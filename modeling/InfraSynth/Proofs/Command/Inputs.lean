import InfraSynth.Command.Run
import InfraSynth.Files.Tree
import InfraSynth.Proofs.Command.TemplateFile

/-!
# What a command works on

Looking for the configuration and the templates leaves the disk as it is, and what
is found depends only on what the disk has at the paths that are looked at:
`finds_inputs` says that the computation `inputs` gives what the function `inputsOn`
gives.  Where the search succeeds there is at least one template,
`ne_nil_of_filesOn_eq_ok`.
-/

open InfraSynth.Outcome (bind_eq_ok_iff map_eq_ok_iff)

namespace InfraSynth.Command

open Files (Disk FileTree FileSystem)

variable {environment : String → Option String} {disk : Disk} {α β : Type}

/-- The settings in the configuration file on a disk, or those that hold where there
is none. -/
def configOn (disk : Disk) (path : Option String) : Except Failure Config :=
  match path, disk.tree? (path.getD configFile) with
  | some path, none => .error (.missingConfig path)
  | none, none => .ok .default
  | path, some tree => (configOfText tree.text?).mapError (.error (path.map .loading))

/-- The settings with what the environment says about them. -/
def settingsOn (environment : String → Option String) (disk : Disk) (path : Option String) :
    Except Failure Config := do
  let config ← configOn disk path
  (config.override environment).mapError (.error none)

/-- The paths of the templates that a disk has at a path. -/
def pathsOn (disk : Disk) (path : String) : Except Failure (List String) :=
  match disk.tree? path with
  | none => .error (.missingTemplates path)
  | some (.file _) => .ok [path]
  | some (.directory entries) =>
    let paths := templatePaths path ((FileTree.filesOf entries).map Prod.fst)
    if paths.isEmpty then .error (.noTemplates path) else .ok paths

/-- The file that a disk has at a path. -/
def fileOn (disk : Disk) (path : String) : TemplateFile :=
  ⟨path, (disk.tree? path).bind FileTree.text?⟩

/-- The files with templates that a disk has at a path. -/
def filesOn (disk : Disk) (path : String) : Except Failure (List TemplateFile) :=
  (pathsOn disk path).map (·.map (fileOn disk))

/-- The settings and the files that a request works on. -/
def inputsOn (environment : String → Option String) (disk : Disk) (config : Option String)
    (path : String) : Except Failure (Config × List TemplateFile) := do
  let config ← settingsOn environment disk config
  return (config, ← filesOn disk path)

/-! ## Computations that only look -/

/-- A computation gives an answer and leaves the disk as it is. -/
def Finds (disk : Disk) (action : ExceptT Failure (StateM Disk) α) (answer : Except Failure α) :
    Prop :=
  action.run.run disk = (answer, disk)

section Finds

variable {action : ExceptT Failure (StateM Disk) α} {next : α → ExceptT Failure (StateM Disk) β}

theorem Finds.of_except {answer : Except Failure α} :
    Finds disk (ExceptT.mk (pure answer)) answer :=
  rfl

theorem Finds.bind {answer : Except Failure α} {later : α → Except Failure β}
    (h : Finds disk action answer) (hnext : ∀ a, Finds disk (next a) (later a)) :
    Finds disk (action >>= next) (answer >>= later) := by
  unfold Finds at h ⊢
  rw [ExceptT.run_bind, StateT.run_bind, h]
  cases answer with
  | error failure => rfl
  | ok a => exact hnext a

/-- A question that has an answer. -/
theorem Finds.bind_ok {a : α} {later : Except Failure β} (h : Finds disk action (.ok a))
    (hnext : Finds disk (next a) later) : Finds disk (action >>= next) later := by
  unfold Finds at h hnext ⊢
  rw [ExceptT.run_bind, StateT.run_bind, h]
  exact hnext

theorem Finds.ite {condition : Prop} [Decidable condition]
    {other : ExceptT Failure (StateM Disk) α} {first second : Except Failure α}
    (h : Finds disk action first) (hother : Finds disk other second) :
    Finds disk (if condition then action else other) (if condition then first else second) := by
  split
  · exact h
  · exact hother

theorem finds_kind? (path : String) :
    Finds disk (liftM (FileSystem.kind? (m := StateM Disk) path))
      (.ok ((disk.tree? path).map FileTree.kind)) :=
  rfl

theorem finds_read? (path : String) :
    Finds disk (liftM (FileSystem.read? (m := StateM Disk) path))
      (.ok ((disk.tree? path).bind FileTree.text?)) :=
  rfl

theorem finds_below (path : String) :
    Finds disk (liftM (FileSystem.below (m := StateM Disk) path))
      (.ok ((((disk.tree? path).map FileTree.files).getD []).map Prod.fst)) :=
  rfl

end Finds

/-! ## Looking for settings and templates -/

theorem finds_configFrom (path : Option String) :
    Finds disk (configFrom path) (configOn disk path) := by
  refine Finds.bind_ok (finds_kind? _) ?_
  unfold configOn
  cases htree : disk.tree? (path.getD configFile) with
  | none => cases path <;> rfl
  | some tree =>
      cases path <;>
        exact Finds.bind_ok (finds_read? _) (by rw [htree]; exact Finds.of_except)

theorem finds_loadConfig (path : Option String) :
    Finds disk (loadConfig environment path) (settingsOn environment disk path) :=
  (finds_configFrom path).bind fun _ => Finds.of_except

theorem finds_collectPaths (path : String) :
    Finds disk (collectPaths path) (pathsOn disk path) := by
  refine Finds.bind_ok (finds_kind? _) ?_
  unfold pathsOn
  cases htree : disk.tree? path with
  | none => rfl
  | some tree =>
      cases tree with
      | file text => rfl
      | directory entries =>
          refine Finds.bind_ok (finds_below _) ?_
          rw [htree]
          exact Finds.ite rfl rfl

theorem finds_read_all (paths : List String) :
    Finds disk (paths.mapM fun path => do return ⟨path, ← FileSystem.read? (m := StateM Disk) path⟩)
      (.ok (paths.map (fileOn disk))) := by
  induction paths with
  | nil => rfl
  | cons path rest ih =>
      rw [List.mapM_cons]
      exact Finds.bind_ok (Finds.bind_ok (finds_read? path) rfl) (Finds.bind_ok ih rfl)

theorem finds_collect (path : String) : Finds disk (collect path) (filesOn disk path) := by
  have hanswer : filesOn disk path =
      (pathsOn disk path >>= fun paths => .ok (paths.map (fileOn disk))) := by
    unfold filesOn
    cases pathsOn disk path <;> rfl
  rw [hanswer]
  exact (finds_collectPaths path).bind finds_read_all

/-- **Looking for settings and templates leaves the disk as it is.** -/
theorem finds_inputs (config : Option String) (path : String) :
    Finds disk (inputs environment config path) (inputsOn environment disk config path) :=
  (finds_loadConfig config).bind fun _ => (finds_collect path).bind fun _ => rfl

/-! ## Going on with what is found -/

section WithInputs

variable {config : Option String} {path : String}
  {next : Config → List TemplateFile → StateM Disk Report}

theorem run_withInputs_of_error {failure : Failure}
    (h : inputsOn environment disk config path = .error failure) :
    (withInputs environment config path next).run disk = (⟨[], some failure⟩, disk) := by
  have hfinds : Finds disk (inputs environment config path)
      (inputsOn environment disk config path) := finds_inputs config path
  unfold Finds at hfinds
  rw [withInputs, StateT.run_bind, hfinds, h]
  rfl

theorem run_withInputs_of_ok {settings : Config} {files : List TemplateFile}
    (h : inputsOn environment disk config path = .ok (settings, files)) :
    (withInputs environment config path next).run disk = (next settings files).run disk := by
  have hfinds : Finds disk (inputs environment config path)
      (inputsOn environment disk config path) := finds_inputs config path
  unfold Finds at hfinds
  rw [withInputs, StateT.run_bind, hfinds, h]
  rfl

/-- The path that a request works on. -/
def Request.path? : Request → Option String
  | .synth path _ _ | .validate path | .cost path => some path
  | .resources _ => none

/-- A run that finds nothing to work on fails. -/
theorem run_report_of_error {invocation : Invocation} {failure : Failure}
    (hpath : invocation.request.path? = some path)
    (hinputs : inputsOn environment disk invocation.config path = .error failure) :
    (invocation.report environment : StateM Disk Report).run disk =
      (⟨[], some failure⟩, disk) := by
  unfold Invocation.report
  cases hrequest : invocation.request with
  | resources asJson =>
      rw [hrequest] at hpath
      cases hpath
  | synth place | validate place | cost place =>
      rw [hrequest] at hpath
      obtain rfl : place = path := Option.some.inj hpath
      exact run_withInputs_of_error hinputs

end WithInputs

/-! ## What is found -/

theorem mem_templatePaths_iff {path template : String} {locations : List Files.Location} :
    template ∈ templatePaths path locations ↔
      (∃ location ∈ locations, Files.join path ("/".intercalate location) = template) ∧
        Template.isTemplatePath template = true := by
  unfold templatePaths
  rw [List.mem_filter, List.mem_map]
  simp only [List.mem_mergeSort]

theorem inputsOn_eq_ok_iff {config : Option String} {path : String} {settings : Config}
    {files : List TemplateFile} :
    inputsOn environment disk config path = .ok (settings, files) ↔
      settingsOn environment disk config = .ok settings ∧ filesOn disk path = .ok files := by
  unfold inputsOn
  cases settingsOn environment disk config with
  | error failure => simp [bind, Except.bind]
  | ok found => cases filesOn disk path <;> simp [bind, Except.bind, pure, Except.pure]

/-- Where the search for templates succeeds there is one. -/
theorem ne_nil_of_filesOn_eq_ok {path : String} {files : List TemplateFile}
    (h : filesOn disk path = .ok files) : files ≠ [] := by
  obtain ⟨paths, hpaths, rfl⟩ := map_eq_ok_iff.mp h
  have hne : paths ≠ [] := by
    unfold pathsOn at hpaths
    split at hpaths
    · cases hpaths
    · cases hpaths
      exact List.cons_ne_nil _ _
    · rename_i entries _
      cases hempty : (templatePaths path ((FileTree.filesOf entries).map Prod.fst)).isEmpty <;>
        simp only [hempty] at hpaths
      · cases hpaths
        exact fun hnil => by simp [hnil] at hempty
      · cases hpaths
  exact fun hnil => hne (List.map_eq_nil_iff.mp hnil)

/-! ## Two templates on a disk -/

/-- A disk with the files in its working directory. -/
def twoTemplates : Disk :=
  ⟨.directory [("work", .directory [
    ("a.yaml", .file (some "name: base\n")),
    ("b.json", .file (some "\x7b\"name\": \"net\"\x7d"))])], ["work"]⟩

/-- Nothing but a request. -/
def Invocation.plain (request : Request) : Invocation :=
  ⟨false, false, false, none, request⟩

theorem inputsOn_twoTemplates :
    inputsOn (fun _ => none) twoTemplates none "." = .ok (.default, twoFiles) := by
  have hsorted : [["a.yaml"], ["b.json"]].mergeSort Files.comesFirst = [["a.yaml"], ["b.json"]] :=
    List.mergeSort_of_pairwise (by decide +kernel)
  have hpaths : templatePaths "." [["a.yaml"], ["b.json"]] = ["./a.yaml", "./b.json"] := by
    rw [templatePaths, hsorted]
    rfl
  have hfound : pathsOn twoTemplates "." = .ok ["./a.yaml", "./b.json"] := by
    show (let paths := templatePaths "." [["a.yaml"], ["b.json"]]
      if paths.isEmpty then _ else Except.ok paths) = _
    rw [hpaths]
    rfl
  exact inputsOn_eq_ok_iff.mpr ⟨by rfl, map_eq_ok_iff.mpr ⟨_, hfound, by rfl⟩⟩

end InfraSynth.Command
