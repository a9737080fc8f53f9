import InfraSynth.Command.TemplateFile
import InfraSynth.Proofs.Template.Synthesis

/-!
# Carrying out the templates of several files

`synthesizeAll` looks for another template of the same name after every file and
stops at the first failure.  It succeeds exactly if every file by itself has a
template that can be carried out and all names are different,
`synthesizeAll_eq_ok_iff`: which file fails, and where in the list it is, does not
matter for that.
-/

open InfraSynth.Outcome (bind_eq_ok_iff mapError_eq_ok_iff pure_eq_ok_iff)

namespace InfraSynth.Command

variable {config : Config}

/-- The template in a file loads and can be carried out. -/
structure TemplateFile.Gives (config : Config) (file : TemplateFile) (done : SynthesizedFile) :
    Prop where
  path : done.path = file.path
  loads : file.template = .ok done.template
  synthesizes : (Registry.aws.synthesize done.template config).result = .ok done.synth

/-- The templates of all files load and can be carried out. -/
def GiveAll (config : Config) (files : List TemplateFile) (done : List SynthesizedFile) : Prop :=
  List.Forall₂ (TemplateFile.Gives config) files done

namespace TemplateFile

variable {file : TemplateFile} {done other : SynthesizedFile}

theorem synthesize_eq_ok_iff : file.synthesize config = .ok done ↔ file.Gives config done := by
  simp only [synthesize, bind_eq_ok_iff, mapError_eq_ok_iff, pure_eq_ok_iff]
  constructor
  · rintro ⟨template, htemplate, synth, hsynth, rfl⟩
    exact ⟨rfl, htemplate, hsynth⟩
  · intro h
    exact ⟨done.template, h.loads, done.synth, h.synthesizes, by rw [← h.path]⟩

/-- What a template gives does not depend on where documents go. -/
theorem gives_outputDir_iff {outputDir : String} :
    file.Gives { config with outputDir } done ↔ file.Gives config done :=
  ⟨fun h => ⟨h.path, h.loads, h.synthesizes⟩, fun h => ⟨h.path, h.loads, h.synthesizes⟩⟩

/-- Only a template whose name is allowed can be carried out. -/
theorem Gives.isAllowed_name (h : file.Gives config done) : Name.IsAllowed done.name := by
  have hresult := h.synthesizes
  unfold Registry.synthesize at hresult
  simp only [Logged.result_bind, Logged.result_ofExcept, bind_eq_ok_iff] at hresult
  obtain ⟨⟨⟩, hname, -⟩ := hresult
  exact Name.check_eq_ok_iff.mp hname

end TemplateFile

/-! ## Lists of files -/

section Files

variable {files : List TemplateFile} {before done other : List SynthesizedFile}

theorem giveAll_outputDir_iff {outputDir : String} :
    GiveAll { config with outputDir } files done ↔ GiveAll config files done :=
  ⟨fun h => h.imp fun _ _ => TemplateFile.gives_outputDir_iff.mp,
    fun h => h.imp fun _ _ => TemplateFile.gives_outputDir_iff.mpr⟩

theorem exists_giveAll_iff :
    (∃ done, GiveAll config files done) ↔ ∀ file ∈ files, ∃ done, file.Gives config done := by
  constructor
  · rintro ⟨done, h⟩
    induction h with
    | nil => simp
    | cons hfirst _ ih => exact List.forall_mem_cons.mpr ⟨⟨_, hfirst⟩, ih⟩
  · intro h
    induction files with
    | nil => exact ⟨[], .nil⟩
    | cons file rest ih =>
        obtain ⟨⟨first, hfirst⟩, hrest⟩ := List.forall_mem_cons.mp h
        obtain ⟨others, hothers⟩ := ih hrest
        exact ⟨first :: others, .cons hfirst hothers⟩

theorem GiveAll.exists_gives (h : GiveAll config files done) :
    ∀ file ∈ done, ∃ source : TemplateFile, source.Gives config file := by
  induction h with
  | nil => exact List.forall_mem_nil _
  | cons hfirst _ ih => exact List.forall_mem_cons.mpr ⟨⟨_, hfirst⟩, ih⟩

theorem GiveAll.isAllowed_name (h : GiveAll config files done) :
    ∀ file ∈ done, Name.IsAllowed file.name := by
  intro file hfile
  obtain ⟨source, hsource⟩ := h.exists_gives file hfile
  exact hsource.isAllowed_name

theorem GiveAll.ne_nil (h : GiveAll config files done) (hfiles : files ≠ []) : done ≠ [] := by
  cases h with
  | nil => exact absurd rfl hfiles
  | cons _ _ => exact List.cons_ne_nil _ _

/-- Go on with one more file, after those that are done. -/
def addFile (config : Config) (before : List SynthesizedFile) (file : TemplateFile) :
    Except Failure (List SynthesizedFile) := do
  let next ← file.synthesize config
  match before.find? (·.name = next.name) with
  | some previous => .error (.sameName previous.path next.path next.name)
  | none => return before ++ [next]

theorem addFile_eq_ok_iff {file : TemplateFile} :
    addFile config before file = .ok done ↔
      ∃ next, file.Gives config next ∧ next.name ∉ before.map (·.name) ∧
        before ++ [next] = done := by
  have hnew : ∀ next : SynthesizedFile,
      before.find? (·.name = next.name) = none ↔ next.name ∉ before.map (·.name) := by
    intro next
    simp [List.find?_eq_none]
  simp only [addFile, bind_eq_ok_iff, TemplateFile.synthesize_eq_ok_iff, ← hnew]
  refine exists_congr fun next => and_congr_right fun _ => ?_
  cases before.find? (·.name = next.name) <;> simp [pure_eq_ok_iff]

/-- The loop goes on with the rest of the files after some are done. -/
theorem foldlM_addFile_eq_ok_iff (hbefore : (before.map (·.name)).Nodup) :
    files.foldlM (addFile config) before = .ok other ↔
      ∃ done, GiveAll config files done ∧ ((before ++ done).map (·.name)).Nodup ∧
        before ++ done = other := by
  induction files generalizing before with
  | nil => simp [GiveAll, pure_eq_ok_iff, hbefore]
  | cons file rest ih =>
      have hgrown : ∀ next : SynthesizedFile, ((before ++ [next]).map (·.name)).Nodup ↔
          next.name ∉ before.map (·.name) := by
        intro next
        rw [List.map_append, List.map_singleton, ← List.concat_eq_append, List.nodup_concat]
        exact and_iff_left hbefore
      rw [List.foldlM_cons, bind_eq_ok_iff]
      constructor
      · rintro ⟨after, hafter, hrest⟩
        obtain ⟨next, hnext, hnew, rfl⟩ := addFile_eq_ok_iff.mp hafter
        obtain ⟨others, hothers, hnodup, rfl⟩ := (ih ((hgrown next).mpr hnew)).mp hrest
        exact ⟨next :: others, .cons hnext hothers, by simpa using hnodup, by simp⟩
      · rintro ⟨done, hdone, hnodup, rfl⟩
        cases hdone with
        | @cons _ next _ others hnext hothers =>
            have hnodup' : (((before ++ [next]) ++ others).map (·.name)).Nodup := by
              simpa using hnodup
            have hnew : ((before ++ [next]).map (·.name)).Nodup := by
              rw [List.map_append] at hnodup'
              exact (List.nodup_append.mp hnodup').1
            refine ⟨before ++ [next],
              addFile_eq_ok_iff.mpr ⟨next, hnext, (hgrown next).mp hnew, rfl⟩,
              (ih hnew).mpr ⟨others, hothers, hnodup', by simp⟩⟩

/-- **All templates can be carried out together exactly if each can be by itself and
no two have one name.** -/
theorem synthesizeAll_eq_ok_iff :
    synthesizeAll config files = .ok done ↔
      GiveAll config files done ∧ (done.map (·.name)).Nodup := by
  have hloop : synthesizeAll config files = files.foldlM (addFile config) [] := rfl
  have hnil : (([] : List SynthesizedFile).map (·.name)).Nodup := List.nodup_nil
  rw [hloop, foldlM_addFile_eq_ok_iff hnil]
  constructor
  · rintro ⟨found, hfound, hnodup, rfl⟩
    exact ⟨hfound, hnodup⟩
  · rintro ⟨hdone, hnodup⟩
    exact ⟨done, hdone, hnodup, rfl⟩

end Files

/-! ## Two templates -/

/-- Two files with a template in each format. -/
def twoFiles : List TemplateFile :=
  [⟨"./a.yaml", some "name: base\n"⟩, ⟨"./b.json", some "\x7b\"name\": \"net\"\x7d"⟩]

theorem exists_giveAll_twoFiles :
    ∃ done, GiveAll .default twoFiles done ∧ (done.map (·.name)).Nodup := by
  have hok : (synthesizeAll .default twoFiles).toOption.isSome = true := by decide +kernel
  cases hall : synthesizeAll .default twoFiles with
  | ok done => exact ⟨done, synthesizeAll_eq_ok_iff.mp hall⟩
  | error failure => simp [hall, Except.toOption] at hok

end InfraSynth.Command
