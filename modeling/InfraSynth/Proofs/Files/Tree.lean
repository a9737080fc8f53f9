import InfraSynth.Files.Tree
import InfraSynth.Proofs.Collection
import InfraSynth.Proofs.Files.Path

/-!
# Places of a tree of files

What `FileTree.put?` changes and what it leaves alone.  At a place that the new tree is
not put at or above, there is the same as before apart from what is in a directory,
`node?_put?_of_not_prefix`; below the place there is what the new tree has there,
`at?_put?_append`.  An empty directory that is put where nothing was adds no file,
`files_put?_directory`.

## Main definitions

* `FileTree.Node` is what a single place tells about a tree.
* `FileTree.Proper` says that the names in all directories can be names of files and
  differ within a directory.
-/

namespace InfraSynth.Files.FileTree

variable {tree new after sub : FileTree} {entries : List (String × FileTree)} {name : String}
  {location other rest : Location} {text : Option String}

/-- What there is at the root of a tree, without what is in a directory. -/
inductive Node
  | file (text : Option String)
  | directory
  deriving DecidableEq

/-- The root of a tree. -/
def node : FileTree → Node
  | .file text => .file text
  | .directory _ => .directory

/-- What there is at a place of a tree. -/
def node? (tree : FileTree) (location : Location) : Option Node :=
  (at? location tree).map node

theorem node_eq_file_iff : tree.node = .file text ↔ tree = .file text := by
  cases tree <;> simp [node]

theorem node_eq_directory_iff : tree.node = .directory ↔ ∃ entries, tree = .directory entries := by
  cases tree <;> simp [node]

theorem node?_eq_file_iff : tree.node? location = some (.file text) ↔
    at? location tree = some (.file text) := by
  simp [node?, node_eq_file_iff]

theorem node?_eq_directory_iff : tree.node? location = some .directory ↔
    ∃ entries, at? location tree = some (.directory entries) := by
  simp [node?, node_eq_directory_iff]

theorem node?_eq_none_iff : tree.node? location = none ↔ at? location tree = none := by
  simp [node?]

/-! ## Looking at a place -/

theorem at?_append (location other : Location) (tree : FileTree) :
    at? (location ++ other) tree = (at? location tree).bind (at? other) := by
  induction location generalizing tree with
  | nil => rfl
  | cons name rest ih =>
      cases tree with
      | file text => rfl
      | directory entries =>
          rw [List.cons_append, at?, at?]
          cases Entries.get? entries name with
          | none => rfl
          | some sub => exact ih sub

theorem at?_directory_cons : at? (name :: rest) (.directory entries) =
    (Entries.get? entries name).bind (at? rest) :=
  rfl

/-- Above a place where there is something there are directories. -/
theorem node?_of_append (hrest : other ≠ []) (h : tree.node? (location ++ other) ≠ none) :
    tree.node? location = some .directory := by
  rw [ne_eq, node?_eq_none_iff, at?_append] at h
  cases hsub : at? location tree with
  | none => simp [hsub] at h
  | some sub =>
      cases sub with
      | directory entries => exact node?_eq_directory_iff.mpr ⟨entries, hsub⟩
      | file text =>
          obtain ⟨name, more, rfl⟩ := List.exists_cons_of_ne_nil hrest
          simp [hsub, at?] at h

/-! ## Changing a place -/

/-- A tree is put at a place of a directory by putting it at the rest of the place in
the entry of the first name. -/
theorem put?_cons_eq_some_iff : put? new (name :: rest) tree = some after ↔
    ∃ entries inner, tree = .directory entries ∧
      after = .directory (Entries.insert entries name inner) ∧
      (rest = [] ∧ inner = new ∨
        rest ≠ [] ∧ ∃ sub, Entries.get? entries name = some sub ∧
          put? new rest sub = some inner) := by
  cases tree with
  | file text => simp [put?]
  | directory entries =>
      cases rest with
      | nil => simp [put?, eq_comm]
      | cons next more =>
          simp only [put?, Option.bind_eq_bind, Option.bind_eq_some_iff, Option.some.injEq]
          constructor
          · rintro ⟨sub, hsub, inner, hinner, rfl⟩
            exact ⟨entries, inner, rfl, rfl, Or.inr ⟨List.cons_ne_nil _ _, sub, hsub, hinner⟩⟩
          · rintro ⟨_, inner, heq, rfl, ⟨hnil, -⟩ | ⟨-, sub, hsub, hinner⟩⟩
            · cases hnil
            · cases heq
              exact ⟨sub, hsub, inner, hinner, rfl⟩

theorem put?_nil : put? new [] tree = some new := by
  cases tree <;> rfl

/-- At the place and below it there is what the new tree has. -/
theorem at?_put?_append (h : put? new location tree = some after) :
    at? (location ++ other) after = at? other new := by
  induction location generalizing tree after with
  | nil =>
      rw [put?_nil] at h
      cases h
      rfl
  | cons name rest ih =>
      obtain ⟨entries, inner, rfl, rfl, hinner⟩ := put?_cons_eq_some_iff.mp h
      rw [List.cons_append, at?_directory_cons, Entries.get?_insert, if_pos rfl]
      rcases hinner with ⟨rfl, rfl⟩ | ⟨-, sub, -, hsub⟩
      · rfl
      · exact ih hsub

/-- Elsewhere there is what was there before, except for what is in the directories
that lead to the place. -/
theorem node?_put?_of_not_prefix (h : put? new location tree = some after)
    (hnot : ¬location <+: other) : after.node? other = tree.node? other := by
  induction location generalizing tree after other with
  | nil => exact absurd (List.nil_prefix) hnot
  | cons name rest ih =>
      obtain ⟨entries, inner, rfl, rfl, hinner⟩ := put?_cons_eq_some_iff.mp h
      cases other with
      | nil => rfl
      | cons first more =>
          unfold node?
          rw [at?_directory_cons, at?_directory_cons, Entries.get?_insert]
          split
          · -- both places are in the entry that is changed
            rename_i hfirst
            subst hfirst
            have hmore : ¬rest <+: more := fun hprefix =>
              hnot (List.cons_prefix_cons.mpr ⟨rfl, hprefix⟩)
            rcases hinner with ⟨rfl, -⟩ | ⟨-, sub, hget, hsub⟩
            · exact absurd List.nil_prefix hmore
            · rw [hget]
              exact ih hsub hmore
          · rfl

/-- Beside the place nothing changes. -/
theorem at?_put?_of_disjoint (h : put? new location tree = some after)
    (hnot : ¬location <+: other) (hother : ¬other <+: location) :
    at? other after = at? other tree := by
  induction location generalizing tree after other with
  | nil => exact absurd (List.nil_prefix) hnot
  | cons name rest ih =>
      obtain ⟨entries, inner, rfl, rfl, hinner⟩ := put?_cons_eq_some_iff.mp h
      cases other with
      | nil => exact absurd List.nil_prefix hother
      | cons first more =>
          rw [at?_directory_cons, at?_directory_cons, Entries.get?_insert]
          split
          · rename_i hfirst
            subst hfirst
            have hmore : ¬rest <+: more := fun hprefix =>
              hnot (List.cons_prefix_cons.mpr ⟨rfl, hprefix⟩)
            have hrest : ¬more <+: rest := fun hprefix =>
              hother (List.cons_prefix_cons.mpr ⟨rfl, hprefix⟩)
            rcases hinner with ⟨rfl, -⟩ | ⟨-, sub, hget, hsub⟩
            · exact absurd List.nil_prefix hmore
            · rw [hget]
              exact ih hsub hmore hrest
          · rfl

/-- A directory on the way to the place is changed by itself. -/
theorem exists_put?_of_append (h : put? new (location ++ other) tree = some after)
    (hother : other ≠ []) :
    ∃ sub inner, at? location tree = some sub ∧ at? location after = some inner ∧
      put? new other sub = some inner := by
  induction location generalizing tree after with
  | nil => exact ⟨tree, after, rfl, rfl, h⟩
  | cons name rest ih =>
      obtain ⟨entries, inner, rfl, rfl, hinner⟩ := put?_cons_eq_some_iff.mp h
      rcases hinner with ⟨hnil, -⟩ | ⟨-, sub, hget, hsub⟩
      · exact absurd (List.append_eq_nil_iff.mp hnil).2 hother
      · obtain ⟨below, changed, hbelow, hchanged, hput⟩ := ih hsub
        refine ⟨below, changed, ?_, ?_, hput⟩
        · rw [at?_directory_cons, hget]
          exact hbelow
        · rw [at?_directory_cons, Entries.get?_insert, if_pos rfl]
          exact hchanged

/-- Putting at a place what is there changes nothing. -/
theorem put?_self (h : at? location tree = some new) : put? new location tree = some tree := by
  induction location generalizing tree with
  | nil =>
      cases h
      exact put?_nil
  | cons name rest ih =>
      cases tree with
      | file text => cases h
      | directory entries =>
          obtain ⟨sub, hget, hsub⟩ := Option.bind_eq_some_iff.mp h
          refine put?_cons_eq_some_iff.mpr ⟨entries, sub, rfl, by rw [Entries.insert_self hget], ?_⟩
          by_cases hrest : rest = []
          · subst hrest
            cases hsub
            exact Or.inl ⟨rfl, rfl⟩
          · exact Or.inr ⟨hrest, sub, hget, ih hsub⟩

/-! ## Files of a tree -/

theorem filesOf_eq_flatMap : filesOf entries = entries.flatMap fun entry =>
    (files entry.2).map fun (location, text) => (entry.1 :: location, text) := by
  induction entries with
  | nil => rfl
  | cons entry others ih =>
      obtain ⟨name, tree⟩ := entry
      rw [filesOf, ih, List.flatMap_cons]

theorem mem_filesOf_iff : (location, text) ∈ filesOf entries ↔
    ∃ name sub rest, (name, sub) ∈ entries ∧ location = name :: rest ∧
      (rest, text) ∈ files sub := by
  simp only [filesOf_eq_flatMap, List.mem_flatMap, List.mem_map]
  constructor
  · rintro ⟨⟨name, sub⟩, hentry, ⟨rest, _⟩, hfile, heq⟩
    cases heq
    exact ⟨name, sub, rest, hentry, rfl, hfile⟩
  · rintro ⟨name, sub, rest, hentry, rfl, hfile⟩
    exact ⟨(name, sub), hentry, (rest, text), hfile, rfl⟩

theorem mem_files_of_at? (h : at? location tree = some (.file text)) :
    (location, text) ∈ files tree := by
  induction location generalizing tree with
  | nil =>
      cases h
      exact List.mem_singleton_self _
  | cons name rest ih =>
      cases tree with
      | file text => cases h
      | directory entries =>
          obtain ⟨sub, hget, hsub⟩ := Option.bind_eq_some_iff.mp h
          exact mem_filesOf_iff.mpr ⟨name, sub, rest, Entries.mem_of_get? hget, rfl, ih hsub⟩

/-- An entry with the same files can take the place of another one. -/
theorem filesOf_insert (h : Entries.get? entries name = some sub) (hfiles : files new = files sub) :
    filesOf (Entries.insert entries name new) = filesOf entries := by
  induction entries with
  | nil => cases h
  | cons entry others ih =>
      obtain ⟨first, old⟩ := entry
      unfold Entries.get? at h
      unfold Entries.insert
      split at h
      · rename_i hfirst
        cases h
        rw [if_pos hfirst, filesOf, filesOf, hfiles]
      · rename_i hfirst
        rw [if_neg hfirst, filesOf, filesOf, ih h]

/-- A new directory adds no file. -/
theorem files_put?_directory (h : put? (.directory []) location tree = some after)
    (hnew : at? location tree = none) : files after = files tree := by
  induction location generalizing tree after with
  | nil => cases hnew
  | cons name rest ih =>
      obtain ⟨entries, inner, rfl, rfl, hinner⟩ := put?_cons_eq_some_iff.mp h
      rw [at?_directory_cons] at hnew
      rcases hinner with ⟨rfl, rfl⟩ | ⟨-, sub, hget, hsub⟩
      · have hnone : Entries.get? entries name = none := by
          simpa [Option.bind_eq_none_iff, at?] using hnew
        rw [Entries.insert_of_not_mem (Entries.get?_eq_none_iff.mp hnone)]
        simp [files, filesOf_eq_flatMap]
      · rw [hget] at hnew
        exact filesOf_insert hget (ih hsub hnew)

/-! ## Proper trees -/

/-- The names in every directory differ and can be names of files. -/
inductive Proper : FileTree → Prop
  | file (text : Option String) : Proper (.file text)
  | directory {entries : List (String × FileTree)} (nodup : (Entries.keys entries).Nodup)
      (names : ∀ entry ∈ entries, IsFileName entry.1) (trees : ∀ entry ∈ entries, Proper entry.2) :
      Proper (.directory entries)

theorem Proper.at? (h : tree.Proper) (hsub : FileTree.at? location tree = some sub) :
    sub.Proper ∧ ∀ name ∈ location, IsFileName name := by
  induction location generalizing tree with
  | nil =>
      cases hsub
      exact ⟨h, fun _ hname => absurd hname List.not_mem_nil⟩
  | cons name rest ih =>
      cases h with
      | file text => cases hsub
      | @directory entries nodup names trees =>
          obtain ⟨inner, hget, hinner⟩ := Option.bind_eq_some_iff.mp hsub
          have hentry := Entries.mem_of_get? hget
          obtain ⟨hproper, hrest⟩ := ih (trees _ hentry) hinner
          exact ⟨hproper, List.forall_mem_cons.mpr ⟨names _ hentry, hrest⟩⟩

theorem Proper.put? (h : tree.Proper) (hnew : new.Proper)
    (hnames : ∀ name ∈ location, IsFileName name)
    (hput : FileTree.put? new location tree = some after) : after.Proper := by
  induction location generalizing tree after with
  | nil =>
      rw [put?_nil] at hput
      cases hput
      exact hnew
  | cons name rest ih =>
      obtain ⟨entries, inner, rfl, rfl, hinner⟩ := put?_cons_eq_some_iff.mp hput
      obtain ⟨hname, hrest⟩ := List.forall_mem_cons.mp hnames
      cases h with
      | directory nodup names trees =>
          have hproper : inner.Proper := by
            rcases hinner with ⟨-, rfl⟩ | ⟨-, sub, hget, hsub⟩
            · exact hnew
            · exact ih (trees _ (Entries.mem_of_get? hget)) hrest hsub
          refine .directory (Entries.nodup_keys_insert nodup) ?_ ?_
          · intro entry hentry
            rcases Entries.mem_insert hentry with rfl | hold
            · exact hname
            · exact names entry hold
          · intro entry hentry
            rcases Entries.mem_insert hentry with rfl | hold
            · exact hproper
            · exact trees entry hold

/-- In a proper tree every file is at its place. -/
theorem Proper.at?_of_mem_files (h : tree.Proper) (hfile : (location, text) ∈ files tree) :
    FileTree.at? location tree = some (.file text) := by
  induction location generalizing tree with
  | nil =>
      cases tree with
      | file found =>
          cases List.mem_singleton.mp hfile
          rfl
      | directory entries =>
          obtain ⟨_, _, _, -, hnil, -⟩ := mem_filesOf_iff.mp hfile
          cases hnil
  | cons name rest ih =>
      cases h with
      | file found => cases List.mem_singleton.mp hfile
      | directory nodup names trees =>
          obtain ⟨_, sub, _, hentry, heq, hsub⟩ := mem_filesOf_iff.mp hfile
          cases heq
          rw [at?_directory_cons, (Entries.get?_eq_some_iff nodup).mpr hentry]
          exact ih (trees _ hentry) hsub

end InfraSynth.Files.FileTree
