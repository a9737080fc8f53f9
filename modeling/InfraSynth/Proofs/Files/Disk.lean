import InfraSynth.Proofs.Files.Tree
import Mathlib.Logic.Relation

/-!
# Changing a disk

What making directories and writing a file does to a disk, place by place.  Both put
something into a directory where nothing was, or only a file: every other file stays as
it is, and paths that led somewhere lead there still.

## Main definitions

* `Disk.Keeps` relates a disk to one that has something at the same places.
* `Disk.Puts` is a single change, and `Disk.MakesDirectory` one that makes a directory.

## Main results

* `Disk.of_makeDirectories?` and `Disk.puts_of_write?` say which changes are made.
* `Disk.makeDirectories?_eq_self` and `Disk.write?_eq_self` say that nothing changes if the
  same has been done before.
-/

namespace InfraSynth.Files.Disk

open FileTree (Node)
open Relation (ReflTransGen)

variable {disk mid after : Disk} {location next place : Location} {part path name text : String}
  {tree : FileTree}

/-- What there is at a place, without what is in a directory. -/
def node? (disk : Disk) (location : Location) : Option Node :=
  disk.root.node? location

theorem kindAt?_eq_directory_iff :
    disk.kindAt? location = some .directory ↔ disk.node? location = some .directory := by
  unfold kindAt? node? FileTree.node?
  cases FileTree.at? location disk.root with
  | none => simp
  | some tree => cases tree <;> simp [FileTree.kind, FileTree.node]

theorem isSome_kindAt?_iff :
    (disk.kindAt? location).isSome = true ↔ disk.node? location ≠ none := by
  unfold kindAt? node? FileTree.node?
  cases FileTree.at? location disk.root <;> simp

/-- Above a file there are directories. -/
theorem directory_of_file {other : Location} {text : Option String} (hother : other ≠ [])
    (h : disk.node? (location ++ other) = some (.file text)) :
    disk.node? location = some .directory := by
  refine FileTree.node?_of_append hother ?_
  rw [show disk.root.node? (location ++ other) = some (.file text) from h]
  simp

/-! ## Steps -/

/-- A part of a path leads from a directory to itself, to its parent, or to something
in it. -/
theorem step?_eq_some_iff : disk.step? location part = some next ↔
    disk.node? location = some .directory ∧
      ((part = "" ∨ part = ".") ∧ next = location ∨
        part = ".." ∧ next = location.dropLast ∨
        (part ≠ "" ∧ part ≠ "." ∧ part ≠ "..") ∧ next = location ++ [part] ∧
          disk.node? next ≠ none) := by
  unfold step?
  simp only [ne_eq, kindAt?_eq_directory_iff, isSome_kindAt?_iff]
  by_cases hdirectory : disk.node? location = some .directory
  · rw [if_neg (not_not_intro hdirectory)]
    by_cases hhere : part = "" ∨ part = "."
    · rw [if_pos hhere, Option.some.injEq]
      constructor
      · rintro rfl
        exact ⟨hdirectory, Or.inl ⟨hhere, rfl⟩⟩
      · rintro ⟨-, ⟨-, rfl⟩ | ⟨hparent, -⟩ | ⟨⟨hempty, hpoint, -⟩, -⟩⟩
        · rfl
        · subst hparent
          simp at hhere
        · exact (hhere.elim hempty hpoint).elim
    · rw [if_neg hhere]
      obtain ⟨hempty, hpoint⟩ := not_or.mp hhere
      by_cases hparent : part = ".."
      · rw [if_pos hparent, Option.some.injEq]
        constructor
        · rintro rfl
          exact ⟨hdirectory, Or.inr (Or.inl ⟨hparent, rfl⟩)⟩
        · rintro ⟨-, ⟨hcurrent, -⟩ | ⟨-, rfl⟩ | ⟨⟨-, -, hnot⟩, -⟩⟩
          · exact absurd hcurrent hhere
          · rfl
          · exact absurd hparent hnot
      · rw [if_neg hparent, Option.ite_none_right_eq_some, Option.some.injEq]
        constructor
        · rintro ⟨hsome, rfl⟩
          exact ⟨hdirectory, Or.inr (Or.inr ⟨⟨hempty, hpoint, hparent⟩, rfl, hsome⟩)⟩
        · rintro ⟨-, ⟨hcurrent, -⟩ | ⟨hup, -⟩ | ⟨-, rfl, hsome⟩⟩
          · exact absurd hcurrent hhere
          · exact absurd hup hparent
          · exact ⟨hsome, rfl⟩
  · simp [hdirectory]

/-- One disk has something wherever another one has, and a directory where that has
one. -/
structure Keeps (disk after : Disk) : Prop where
  here : after.here = disk.here
  directory : ∀ location, disk.node? location = some .directory →
    after.node? location = some .directory
  something : ∀ location, disk.node? location ≠ none → after.node? location ≠ none

theorem Keeps.refl : Keeps disk disk :=
  ⟨rfl, fun _ h => h, fun _ h => h⟩

theorem Keeps.trans (h : Keeps disk mid) (hafter : Keeps mid after) : Keeps disk after where
  here := hafter.here.trans h.here
  directory _ hlocation := hafter.directory _ (h.directory _ hlocation)
  something _ hlocation := hafter.something _ (h.something _ hlocation)

theorem Keeps.step? (h : Keeps disk after) (hstep : disk.step? location part = some next) :
    after.step? location part = some next := by
  obtain ⟨hdirectory, hnext⟩ := step?_eq_some_iff.mp hstep
  refine step?_eq_some_iff.mpr ⟨h.directory _ hdirectory, ?_⟩
  rcases hnext with hhere | hparent | ⟨hpart, heq, hsome⟩
  · exact Or.inl hhere
  · exact Or.inr (Or.inl hparent)
  · exact Or.inr (Or.inr ⟨hpart, heq, h.something _ hsome⟩)

theorem Keeps.foldlM_step? (h : Keeps disk after) {names : List String}
    (hsteps : names.foldlM disk.step? location = some place) :
    names.foldlM after.step? location = some place := by
  induction names generalizing location with
  | nil => exact hsteps
  | cons first rest ih =>
      rw [List.foldlM_cons, Option.bind_eq_bind, Option.bind_eq_some_iff] at hsteps ⊢
      obtain ⟨next, hnext, hrest⟩ := hsteps
      exact ⟨next, h.step? hnext, ih hrest⟩

/-- A path leads where it led. -/
theorem Keeps.locate? (h : Keeps disk after) (hpath : disk.locate? path = some place) :
    after.locate? path = some place := by
  have hstart : after.start path = disk.start path := by
    unfold start
    rw [h.here]
  unfold Disk.locate? at hpath ⊢
  rw [hstart]
  exact h.foldlM_step? hpath

/-! ## Single changes -/

/-- A tree without anything below its root is put into a directory, where nothing is but
perhaps a file. -/
structure Puts (disk after : Disk) (place : Location) (tree : FileTree) : Prop where
  leaf : tree = .directory [] ∨ ∃ text, tree = .file text
  free : disk.node? place ≠ some .directory
  put : disk.put? place tree = some after

namespace Puts

theorem root (h : disk.Puts after place tree) :
    FileTree.put? tree place disk.root = some after.root := by
  obtain ⟨root, hroot, heq⟩ := Option.bind_eq_some_iff.mp h.put
  cases heq
  exact hroot

theorem here (h : disk.Puts after place tree) : after.here = disk.here := by
  obtain ⟨root, hroot, heq⟩ := Option.bind_eq_some_iff.mp h.put
  cases heq
  rfl

/-- What there is at each place after a change. -/
theorem node? (h : disk.Puts after place tree) (location : Location) :
    after.node? location = if location = place then some tree.node else disk.node? location := by
  by_cases hprefix : place <+: location
  · obtain ⟨rest, rfl⟩ := hprefix
    have hafter : after.node? (place ++ rest) = tree.node? rest := by
      unfold Disk.node? FileTree.node?
      rw [FileTree.at?_put?_append h.root]
    cases rest with
    | nil =>
        rw [hafter, List.append_nil, if_pos rfl]
        rfl
    | cons first more =>
        -- neither the new tree nor the old one has anything below the place
        have hne : place ++ first :: more ≠ place := by simp
        have hold : disk.node? (place ++ first :: more) = none := by
          refine Classical.byContradiction fun hsome => h.free ?_
          exact FileTree.node?_of_append (List.cons_ne_nil _ _) hsome
        rw [hafter, if_neg hne, hold]
        rcases h.leaf with rfl | ⟨text, rfl⟩ <;> rfl
  · have hne : location ≠ place := fun heq => hprefix (heq ▸ List.prefix_rfl)
    rw [if_neg hne]
    exact FileTree.node?_put?_of_not_prefix h.root hprefix

theorem node?_self (h : disk.Puts after place tree) : after.node? place = some tree.node := by
  rw [h.node?, if_pos rfl]

theorem node?_of_ne (h : disk.Puts after place tree) (hne : location ≠ place) :
    after.node? location = disk.node? location := by
  rw [h.node?, if_neg hne]

theorem keeps (h : disk.Puts after place tree) : Keeps disk after where
  here := h.here
  directory location hlocation := by
    have hne : location ≠ place := fun heq => h.free (heq ▸ hlocation)
    rw [h.node?_of_ne hne, hlocation]
  something location hlocation := by
    rw [h.node?]
    split
    · simp
    · exact hlocation

end Puts

/-- An empty directory is put where nothing was. -/
def MakesDirectory (disk after : Disk) : Prop :=
  ∃ location name, IsFileName name ∧ disk.node? location = some .directory ∧
    disk.node? (location ++ [name]) = none ∧
    disk.Puts after (location ++ [name]) (.directory [])

theorem keeps_of_makesDirectory (h : ReflTransGen MakesDirectory disk after) :
    Keeps disk after := by
  induction h with
  | refl => exact Keeps.refl
  | tail _ hlast ih =>
      obtain ⟨_, _, -, -, -, hputs⟩ := hlast
      exact ih.trans hputs.keeps

/-- At a place there is what was there before, or a directory where nothing was. -/
def Spares (disk after : Disk) (location : Location) : Prop :=
  after.node? location = disk.node? location ∨
    disk.node? location = none ∧ after.node? location = some .directory

theorem Spares.trans (h : Spares disk mid location) (hafter : Spares mid after location) :
    Spares disk after location := by
  rcases h with hsame | ⟨hnone, hdirectory⟩
  · unfold Spares
    rw [← hsame]
    exact hafter
  · rcases hafter with hsame | ⟨hmid, -⟩
    · exact Or.inr ⟨hnone, hsame.trans hdirectory⟩
    · rw [hdirectory] at hmid
      cases hmid

/-- A file that is spared is as it was, and there are no others. -/
theorem Spares.node?_eq_file_iff {text : Option String} (h : Spares disk after location) :
    after.node? location = some (.file text) ↔ disk.node? location = some (.file text) := by
  rcases h with hsame | ⟨hnone, hdirectory⟩
  · rw [hsame]
  · simp [hnone, hdirectory]

theorem Puts.spares (h : disk.Puts after place tree) (hne : location ≠ place) :
    Spares disk after location :=
  Or.inl (h.node?_of_ne hne)

theorem spares_of_makesDirectory (h : ReflTransGen MakesDirectory disk after)
    (location : Location) : Spares disk after location := by
  induction h with
  | refl => exact Or.inl rfl
  | tail _ hlast ih =>
      obtain ⟨parent, name, -, -, hnone, hputs⟩ := hlast
      refine ih.trans ?_
      by_cases hplace : location = parent ++ [name]
      · subst hplace
        exact Or.inr ⟨hnone, hputs.node?_self⟩
      · exact hputs.spares hplace

/-! ## What is below a place -/

/-- A directory that the place is not in stays as it is. -/
theorem Puts.at?_eq {base : Location} {sub : FileTree} (h : disk.Puts after place tree)
    (hsub : FileTree.at? base disk.root = some sub) (hnot : ¬base <+: place) :
    FileTree.at? base after.root = some sub := by
  have hother : ¬place <+: base := by
    rintro ⟨rest, rfl⟩
    by_cases hrest : rest = []
    · subst hrest
      exact hnot (by simp)
    · refine h.free (FileTree.node?_of_append hrest ?_)
      simp [FileTree.node?, hsub]
  rw [FileTree.at?_put?_of_disjoint h.root hother hnot, hsub]

/-- There are the same files below a place, with the same texts. -/
def SameFilesBelow (base : Location) (disk after : Disk) : Prop :=
  ∀ sub, FileTree.at? base disk.root = some sub →
    ∃ inner, FileTree.at? base after.root = some inner ∧ inner.files = sub.files

theorem SameFilesBelow.trans {base : Location} (h : SameFilesBelow base disk mid)
    (hafter : SameFilesBelow base mid after) : SameFilesBelow base disk after := by
  intro sub hsub
  obtain ⟨inner, hinner, hfiles⟩ := h sub hsub
  obtain ⟨last, hlast, hsame⟩ := hafter inner hinner
  exact ⟨last, hlast, hsame.trans hfiles⟩

theorem Puts.sameFilesBelow {base : Location} (h : disk.Puts after place tree)
    (hnot : ¬base <+: place) : SameFilesBelow base disk after :=
  fun sub hsub => ⟨sub, h.at?_eq hsub hnot, rfl⟩

/-- A new directory adds no files anywhere. -/
theorem sameFilesBelow_of_makesDirectory (base : Location)
    (h : ReflTransGen MakesDirectory disk after) : SameFilesBelow base disk after := by
  induction h with
  | refl => exact fun sub hsub => ⟨sub, hsub, rfl⟩
  | tail _ hlast ih =>
      obtain ⟨parent, name, -, -, hnone, hputs⟩ := hlast
      refine ih.trans fun sub hsub => ?_
      by_cases hbelow : base <+: parent ++ [name]
      · -- the new directory is strictly below the place, where there was something already
        obtain ⟨rest, hrest⟩ := hbelow
        rw [← hrest] at hnone hputs
        have hnew := FileTree.node?_eq_none_iff.mp hnone
        have hne : rest ≠ [] := by
          rintro rfl
          rw [List.append_nil, hsub] at hnew
          cases hnew
        obtain ⟨found, inner, hfound, hinner, hput⟩ :=
          FileTree.exists_put?_of_append hputs.root hne
        obtain rfl : found = sub := Option.some.inj (hfound.symm.trans hsub)
        rw [FileTree.at?_append, hsub] at hnew
        exact ⟨inner, hinner, FileTree.files_put?_directory hput hnew⟩
      · exact hputs.sameFilesBelow hbelow sub hsub

/-! ## Proper disks -/

/-- A proper tree stays proper if what is put into a directory has a proper name. -/
theorem Puts.proper (h : disk.Puts after (location ++ [name]) tree) (hdisk : disk.root.Proper)
    (hname : IsFileName name) (hdirectory : disk.node? location = some .directory) :
    after.root.Proper := by
  obtain ⟨entries, hentries⟩ := FileTree.node?_eq_directory_iff.mp hdirectory
  have htree : tree.Proper := by
    rcases h.leaf with rfl | ⟨text, rfl⟩
    · exact .directory List.nodup_nil (List.forall_mem_nil _) (List.forall_mem_nil _)
    · exact .file text
  refine hdisk.put? htree (fun part hpart => ?_) h.root
  rcases List.mem_append.mp hpart with hpart | hpart
  · exact (hdisk.at? hentries).2 part hpart
  · exact List.mem_singleton.mp hpart ▸ hname

theorem proper_of_makesDirectory (h : ReflTransGen MakesDirectory disk after)
    (hdisk : disk.root.Proper) : after.root.Proper := by
  induction h with
  | refl => exact hdisk
  | tail _ hlast ih =>
      obtain ⟨parent, name, hname, hdirectory, -, hputs⟩ := hlast
      exact hputs.proper ih hname hdirectory

/-! ## Making directories -/

/-- Something can only be put into a directory. -/
theorem directory_of_put? (h : disk.put? (location ++ [name]) tree = some after) :
    disk.node? location = some .directory := by
  obtain ⟨root, hroot, -⟩ := Option.bind_eq_some_iff.mp h
  obtain ⟨sub, inner, hsub, -, hinner⟩ :=
    FileTree.exists_put?_of_append hroot (List.cons_ne_nil _ _)
  obtain ⟨entries, -, rfl, -, -⟩ := FileTree.put?_cons_eq_some_iff.mp hinner
  exact FileTree.node?_eq_directory_iff.mpr ⟨entries, hsub⟩

/-- A part of a path is entered, and what it leads to is made if it is not there. -/
theorem of_enter? (hslash : '/' ∉ part.toList)
    (h : enter? (disk, location) part = some (after, next)) :
    ReflTransGen MakesDirectory disk after ∧ after.step? location part = some next := by
  unfold enter? at h
  dsimp only at h
  cases hstep : disk.step? location part with
  | some found =>
      rw [hstep] at h
      cases h
      exact ⟨.refl, hstep⟩
  | none =>
      rw [hstep] at h
      obtain ⟨changed, hput, heq⟩ := Option.bind_eq_some_iff.mp h
      cases heq
      have hdirectory : disk.node? location = some .directory := directory_of_put? hput
      -- an empty part and points lead somewhere from every directory, so this is a name
      have hnot : ∀ place, disk.step? location part ≠ some place := by simp [hstep]
      have hname : IsFileName part := by
        refine ⟨hslash, fun hpart => ?_, fun hpart => ?_, fun hpart => ?_⟩
        · exact hnot _ (step?_eq_some_iff.mpr ⟨hdirectory, Or.inl ⟨Or.inl hpart, rfl⟩⟩)
        · exact hnot _ (step?_eq_some_iff.mpr ⟨hdirectory, Or.inl ⟨Or.inr hpart, rfl⟩⟩)
        · exact hnot _ (step?_eq_some_iff.mpr ⟨hdirectory, Or.inr (Or.inl ⟨hpart, rfl⟩)⟩)
      have hnone : disk.node? (location ++ [part]) = none := by
        refine Classical.byContradiction fun hsome => ?_
        exact hnot _ (step?_eq_some_iff.mpr ⟨hdirectory, Or.inr (Or.inr
          ⟨⟨hname.ne_empty, hname.ne_here, hname.ne_parent⟩, rfl, hsome⟩)⟩)
      have hputs : disk.Puts after (location ++ [part]) (.directory []) :=
        ⟨Or.inl rfl, by simp [hnone], hput⟩
      refine ⟨.single ⟨location, part, hname, hdirectory, hnone, hputs⟩, ?_⟩
      refine step?_eq_some_iff.mpr ⟨hputs.keeps.directory _ hdirectory, Or.inr (Or.inr
        ⟨⟨hname.ne_empty, hname.ne_here, hname.ne_parent⟩, rfl, ?_⟩)⟩
      simp [hputs.node?_self]

theorem of_foldlM_enter? {names : List String} (hslash : ∀ name ∈ names, '/' ∉ name.toList)
    (h : names.foldlM enter? (disk, location) = some (after, place)) :
    ReflTransGen MakesDirectory disk after ∧ names.foldlM after.step? location = some place := by
  induction names generalizing disk location with
  | nil =>
      cases h
      exact ⟨.refl, rfl⟩
  | cons first rest ih =>
      obtain ⟨hfirst, hrest⟩ := List.forall_mem_cons.mp hslash
      rw [List.foldlM_cons, Option.bind_eq_bind, Option.bind_eq_some_iff] at h
      obtain ⟨⟨mid, next⟩, hnext, hlast⟩ := h
      obtain ⟨hmid, hstep⟩ := of_enter? hfirst hnext
      obtain ⟨hafter, hsteps⟩ := ih hrest hlast
      refine ⟨hmid.trans hafter, ?_⟩
      rw [List.foldlM_cons, Option.bind_eq_bind, Option.bind_eq_some_iff]
      exact ⟨next, (keeps_of_makesDirectory hafter).step? hstep, hsteps⟩

/-- Directories are made until a path leads to one. -/
theorem of_makeDirectories? (h : disk.makeDirectories? path = some after) :
    ReflTransGen MakesDirectory disk after ∧
      ∃ place, after.locate? path = some place ∧ after.node? place = some .directory := by
  unfold makeDirectories? at h
  rw [Option.bind_eq_bind, Option.bind_eq_some_iff] at h
  obtain ⟨⟨changed, place⟩, hfold, hresult⟩ := h
  obtain ⟨hplace, heq⟩ := Option.ite_none_right_eq_some.mp hresult
  cases heq
  obtain ⟨hmade, hsteps⟩ := of_foldlM_enter? (fun name hname => noSlash_of_mem_parts hname) hfold
  have hstart : after.start path = disk.start path := by
    unfold start
    rw [(keeps_of_makesDirectory hmade).here]
  refine ⟨hmade, place, ?_, kindAt?_eq_directory_iff.mp hplace⟩
  unfold locate?
  rw [hstart]
  exact hsteps

theorem foldlM_enter?_eq_self {names : List String}
    (h : names.foldlM disk.step? location = some place) :
    names.foldlM enter? (disk, location) = some (disk, place) := by
  induction names generalizing location with
  | nil =>
      cases h
      rfl
  | cons first rest ih =>
      rw [List.foldlM_cons, Option.bind_eq_bind, Option.bind_eq_some_iff] at h ⊢
      obtain ⟨next, hnext, hrest⟩ := h
      refine ⟨(disk, next), ?_, ih hrest⟩
      unfold enter?
      dsimp only
      rw [hnext]

/-- Nothing is made where there is a directory. -/
theorem makeDirectories?_eq_self (hpath : disk.locate? path = some place)
    (hplace : disk.node? place = some .directory) : disk.makeDirectories? path = some disk := by
  unfold makeDirectories?
  rw [foldlM_enter?_eq_self hpath]
  exact if_pos (kindAt?_eq_directory_iff.mpr hplace)

/-! ## Paths in a directory -/

/-- An empty part at the end of the path of a directory does not matter. -/
theorem foldlM_step?_iff {names : List String}
    (hparts : parts path = names ∨ parts path = names ++ [""]) :
    names.foldlM disk.step? (disk.start path) = some place ∧
        disk.node? place = some .directory ↔
      disk.locate? path = some place ∧ disk.node? place = some .directory := by
  unfold locate?
  rcases hparts with hparts | hparts
  · rw [hparts]
  · rw [hparts, List.foldlM_append, Option.bind_eq_bind, Option.bind_eq_some_iff]
    constructor
    · rintro ⟨hnames, hplace⟩
      refine ⟨⟨place, hnames, ?_⟩, hplace⟩
      rw [List.foldlM_cons, step?_eq_some_iff.mpr ⟨hplace, Or.inl ⟨Or.inl rfl, rfl⟩⟩]
      rfl
    · rintro ⟨⟨found, hfound, hlast⟩, hplace⟩
      rw [List.foldlM_cons, Option.bind_eq_bind, Option.bind_eq_some_iff] at hlast
      obtain ⟨next, hnext, heq⟩ := hlast
      cases heq
      obtain ⟨-, ⟨-, rfl⟩ | ⟨hparent, -⟩ | ⟨⟨hempty, -⟩, -⟩⟩ := step?_eq_some_iff.mp hnext
      · exact ⟨hfound, hplace⟩
      · exact absurd hparent (by decide)
      · exact absurd rfl hempty

/-- Names lead down from a directory to what there is. -/
theorem foldlM_step?_names {names : List String} (hnames : ∀ name ∈ names, IsFileName name)
    (hsome : disk.node? (location ++ names) ≠ none) :
    names.foldlM disk.step? location = some (location ++ names) := by
  induction names generalizing location with
  | nil => rw [List.append_nil]; rfl
  | cons first rest ih =>
      obtain ⟨hfirst, hrest⟩ := List.forall_mem_cons.mp hnames
      have hsplit : location ++ first :: rest = (location ++ [first]) ++ rest := by simp
      have hdirectory : disk.node? location = some .directory :=
        FileTree.node?_of_append (List.cons_ne_nil _ _) hsome
      rw [hsplit] at hsome ⊢
      -- the next name is the last one, or leads to a directory on the way
      have hnext : disk.node? (location ++ [first]) ≠ none := by
        cases rest with
        | nil => simpa using hsome
        | cons second others =>
            have hinner : disk.node? (location ++ [first]) = some .directory :=
              FileTree.node?_of_append (List.cons_ne_nil _ _) hsome
            simp [hinner]
      have hstep : disk.step? location first = some (location ++ [first]) :=
        step?_eq_some_iff.mpr ⟨hdirectory, Or.inr (Or.inr
          ⟨⟨hfirst.ne_empty, hfirst.ne_here, hfirst.ne_parent⟩, rfl, hnext⟩)⟩
      rw [List.foldlM_cons, hstep]
      exact ih hrest hsome

/-- The parts of the path of something below a directory. -/
theorem exists_parts_join_names (disk : Disk) (path : String) {names : List String}
    (hne : names ≠ []) (hnames : ∀ name ∈ names, IsFileName name) :
    ∃ rest, parts (join path ("/".intercalate names)) = rest ++ names ∧
      (parts path = rest ∨ parts path = rest ++ [""]) ∧
      disk.start (join path ("/".intercalate names)) = disk.start path := by
  obtain ⟨rest, hjoin, hrest⟩ := exists_parts_join path ("/".intercalate names)
  rw [parts_intercalate hne fun name hname => (hnames name hname).noSlash] at hjoin
  refine ⟨rest, hjoin, hrest, ?_⟩
  unfold start
  rw [isAbsolute_join (isAbsolute_intercalate hne hnames)]

/-- The path of something below a directory leads there. -/
theorem locate?_join {names : List String} (hne : names ≠ [])
    (hnames : ∀ name ∈ names, IsFileName name) (hpath : disk.locate? path = some place)
    (hsome : disk.node? (place ++ names) ≠ none) :
    disk.locate? (join path ("/".intercalate names)) = some (place ++ names) := by
  obtain ⟨rest, hjoin, hrest, hstart⟩ := exists_parts_join_names disk path hne hnames
  have hdirectory : disk.node? place = some .directory :=
    FileTree.node?_of_append hne hsome
  obtain ⟨hsteps, -⟩ := (foldlM_step?_iff hrest).mpr ⟨hpath, hdirectory⟩
  unfold locate?
  rw [hjoin, hstart, List.foldlM_append, hsteps]
  exact foldlM_step?_names hnames hsome

theorem locate?_join_name (hname : IsFileName name) (hpath : disk.locate? path = some place)
    (hsome : disk.node? (place ++ [name]) ≠ none) :
    disk.locate? (join path name) = some (place ++ [name]) := by
  have hnames : ∀ part ∈ [name], IsFileName part := by simpa using hname
  have hjoin := locate?_join (List.cons_ne_nil name []) hnames hpath hsome
  rwa [intercalate_singleton] at hjoin

/-- A name leads to what there is in the working directory. -/
theorem locate?_name_eq_some_iff (hname : IsFileName name) :
    disk.locate? name = some location ↔
      location = disk.here ++ [name] ∧ disk.node? location ≠ none := by
  have hstart : disk.start name = disk.here := by
    have hrelative : isAbsolute ("/".intercalate [name]) = false :=
      isAbsolute_intercalate (List.cons_ne_nil _ _) (by simpa using hname)
    rw [intercalate_singleton] at hrelative
    simp [start, hrelative]
  have hstep : disk.locate? name = disk.step? disk.here name := by
    unfold locate?
    rw [parts_of_noSlash hname.noSlash, hstart, List.foldlM_cons]
    cases disk.step? disk.here name <;> rfl
  rw [hstep, step?_eq_some_iff]
  constructor
  · rintro ⟨-, ⟨hhere, -⟩ | ⟨hparent, -⟩ | ⟨-, heq, hsome⟩⟩
    · exact (hhere.elim hname.ne_empty hname.ne_here).elim
    · exact (hname.ne_parent hparent).elim
    · exact ⟨heq, hsome⟩
  · rintro ⟨rfl, hsome⟩
    exact ⟨FileTree.node?_of_append (List.cons_ne_nil _ _) hsome, Or.inr (Or.inr
      ⟨⟨hname.ne_empty, hname.ne_here, hname.ne_parent⟩, rfl, hsome⟩)⟩

/-! ## Writing a file -/

/-- A file is written into the directory that a path leads to. -/
theorem puts_of_write? (hname : IsFileName name)
    (h : disk.write? (join path name) text = some after) :
    ∃ place, disk.locate? path = some place ∧ disk.node? place = some .directory ∧
      disk.Puts after (place ++ [name]) (.file (some text)) := by
  have hnames : ∀ part ∈ [name], IsFileName part := by simpa using hname
  obtain ⟨rest, hjoin, hrest, hstart⟩ :=
    exists_parts_join_names disk path (List.cons_ne_nil _ _) hnames
  unfold write? at h
  rw [intercalate_singleton] at hjoin hstart
  simp only [hjoin, hstart, List.dropLast_concat, List.getLast?_concat, Option.bind_eq_bind,
    Option.bind_eq_some_iff, Option.bind_some] at h
  obtain ⟨place, hplace, hwrite⟩ := h
  rw [Option.ite_none_left_eq_some, Option.ite_none_left_eq_some] at hwrite
  obtain ⟨-, hfree, hput⟩ := hwrite
  have hdirectory : disk.node? place = some .directory := directory_of_put? hput
  obtain ⟨hpath, -⟩ := (foldlM_step?_iff hrest).mp ⟨hplace, hdirectory⟩
  exact ⟨place, hpath, hdirectory, Or.inr ⟨_, rfl⟩, mt kindAt?_eq_directory_iff.mpr hfree, hput⟩

/-- A file with the text that it has already is not changed. -/
theorem write?_eq_self (hname : IsFileName name) (hpath : disk.locate? path = some place)
    (hfile : disk.node? (place ++ [name]) = some (.file (some text))) :
    disk.write? (join path name) text = some disk := by
  have hnames : ∀ part ∈ [name], IsFileName part := by simpa using hname
  obtain ⟨rest, hjoin, hrest, hstart⟩ :=
    exists_parts_join_names disk path (List.cons_ne_nil _ _) hnames
  have hdirectory := directory_of_file (List.cons_ne_nil _ _) hfile
  obtain ⟨hsteps, -⟩ := (foldlM_step?_iff hrest).mpr ⟨hpath, hdirectory⟩
  have hfree : disk.kindAt? (place ++ [name]) ≠ some .directory := by
    rw [ne_eq, kindAt?_eq_directory_iff, hfile]
    simp
  unfold write?
  rw [intercalate_singleton] at hjoin hstart
  simp only [hjoin, hstart, List.dropLast_concat, List.getLast?_concat, hsteps, Option.bind_eq_bind,
    Option.bind_some, hname.ne_empty, hname.ne_here, hname.ne_parent, or_self, if_false,
    if_neg hfree]
  unfold put?
  rw [FileTree.put?_self (FileTree.node?_eq_file_iff.mp hfile)]
  rfl

end InfraSynth.Files.Disk
