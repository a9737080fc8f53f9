import InfraSynth.Files.Path
import Mathlib.Data.List.Basic

/-!
# Parts of paths

A path in a directory has the parts of the directory and then its own, except that
an empty part at the end of the directory is left out, `exists_parts_join`.
-/

namespace InfraSynth.Files

variable {path directory name : String} {names : List String}

/-- A text that can be the name of something in a directory. -/
structure IsFileName (name : String) : Prop where
  noSlash : '/' ∉ name.toList
  ne_empty : name ≠ ""
  ne_here : name ≠ "."
  ne_parent : name ≠ ".."

/-! ## Characters between slashes -/

theorem splitSlashes_ne_nil (cs : List Char) : splitSlashes cs ≠ [] := by
  induction cs with
  | nil => simp [splitSlashes]
  | cons c rest ih =>
      unfold splitSlashes
      cases splitSlashes rest with
      | nil => simp
      | cons first others =>
          dsimp only
          split <;> simp

theorem splitSlashes_cons_of_ne {c : Char} {cs first : List Char} {others : List (List Char)}
    (hc : c ≠ '/') (h : splitSlashes cs = first :: others) :
    splitSlashes (c :: cs) = (c :: first) :: others := by
  rw [splitSlashes, h]
  exact if_neg hc

theorem splitSlashes_slash (cs : List Char) : splitSlashes ('/' :: cs) = [] :: splitSlashes cs := by
  rw [splitSlashes]
  cases h : splitSlashes cs with
  | nil => exact absurd h (splitSlashes_ne_nil cs)
  | cons first others => rfl

theorem splitSlashes_of_not_mem {cs : List Char} (h : '/' ∉ cs) : splitSlashes cs = [cs] := by
  induction cs with
  | nil => rfl
  | cons c rest ih =>
      have hc : c ≠ '/' := fun heq => h (heq ▸ List.mem_cons_self ..)
      exact splitSlashes_cons_of_ne hc (ih fun hrest => h (List.mem_cons_of_mem _ hrest))

theorem splitSlashes_append (before after : List Char) :
    splitSlashes (before ++ '/' :: after) = splitSlashes before ++ splitSlashes after := by
  induction before with
  | nil => exact splitSlashes_slash after
  | cons c rest ih =>
      rw [List.cons_append]
      by_cases hc : c = '/'
      · subst hc
        rw [splitSlashes_slash, splitSlashes_slash, ih, List.cons_append]
      · obtain ⟨first, others, hrest⟩ := List.exists_cons_of_ne_nil (splitSlashes_ne_nil rest)
        rw [hrest, List.cons_append] at ih
        rw [splitSlashes_cons_of_ne hc ih, splitSlashes_cons_of_ne hc hrest, List.cons_append]

theorem not_mem_of_mem_splitSlashes {cs part : List Char} (h : part ∈ splitSlashes cs) :
    '/' ∉ part := by
  induction cs generalizing part with
  | nil =>
      rw [List.mem_singleton.mp h]
      exact List.not_mem_nil
  | cons c rest ih =>
      obtain ⟨first, others, hrest⟩ := List.exists_cons_of_ne_nil (splitSlashes_ne_nil rest)
      by_cases hc : c = '/'
      · subst hc
        rw [splitSlashes_slash] at h
        rcases List.mem_cons.mp h with rfl | h
        · exact List.not_mem_nil
        · exact ih h
      · rw [splitSlashes_cons_of_ne hc hrest] at h
        rw [hrest] at ih
        rcases List.mem_cons.mp h with rfl | h
        · have hfirst : '/' ∉ first := ih (List.mem_cons_self ..)
          exact fun hmem => (List.mem_cons.mp hmem).elim (fun heq => hc heq.symm) hfirst
        · exact ih (List.mem_cons_of_mem _ h)

/-! ## Parts of paths that are put together -/

theorem parts_append_slash (before after : String) :
    parts (before ++ "/" ++ after) = parts before ++ parts after := by
  have hchars : (before ++ "/" ++ after).toList = before.toList ++ '/' :: after.toList := by simp
  rw [parts, hchars, splitSlashes_append, List.map_append]
  rfl

theorem parts_of_noSlash (h : '/' ∉ name.toList) : parts name = [name] := by
  rw [parts, splitSlashes_of_not_mem h, List.map_singleton, String.ofList_toList]

theorem noSlash_of_mem_parts (h : name ∈ parts path) : '/' ∉ name.toList := by
  obtain ⟨part, hpart, rfl⟩ := List.mem_map.mp h
  rw [String.toList_ofList]
  exact not_mem_of_mem_splitSlashes hpart

theorem intercalate_singleton (name : String) : "/".intercalate [name] = name :=
  rfl

/-- Names that are put together are taken apart again. -/
theorem parts_intercalate (hne : names ≠ []) (h : ∀ name ∈ names, '/' ∉ name.toList) :
    parts ("/".intercalate names) = names := by
  induction names with
  | nil => exact absurd rfl hne
  | cons first rest ih =>
      cases rest with
      | nil =>
          rw [intercalate_singleton]
          exact parts_of_noSlash (h first (List.mem_cons_self ..))
      | cons second others =>
          have hsplit : "/".intercalate (first :: second :: others) =
              first ++ "/" ++ "/".intercalate (second :: others) := by
            simp
          rw [hsplit, parts_append_slash, parts_of_noSlash (h first (List.mem_cons_self ..)),
            ih (List.cons_ne_nil _ _) fun name hname => h name (List.mem_cons_of_mem _ hname)]
          rfl

/-- A path in a directory. -/
theorem exists_parts_join (directory path : String) :
    ∃ rest, parts (join directory path) = rest ++ parts path ∧
      (parts directory = rest ∨ parts directory = rest ++ [""]) := by
  unfold join
  split
  · rename_i hend
    rcases hend with rfl | hslash
    · exact ⟨[], by simp, Or.inr rfl⟩
    · obtain ⟨front, hfront⟩ := List.getLast?_eq_some_iff.mp hslash
      have hdirectory : directory = String.ofList front ++ "/" := by
        rw [← String.toList_inj, hfront]
        simp
      have hparts : parts directory = parts (String.ofList front) ++ [""] := by
        have happend := parts_append_slash (String.ofList front) ""
        rwa [String.append_empty, ← hdirectory] at happend
      refine ⟨parts (String.ofList front), ?_, Or.inr hparts⟩
      rw [hdirectory, parts_append_slash]
  · exact ⟨parts directory, parts_append_slash directory path, Or.inl rfl⟩

/-- The first part of a path that starts at the root is empty. -/
theorem head?_parts_of_isAbsolute (h : isAbsolute path = true) : (parts path).head? = some "" := by
  obtain ⟨rest, hrest⟩ : ∃ rest, path.toList = '/' :: rest := by
    unfold isAbsolute at h
    rw [decide_eq_true_eq] at h
    cases hcs : path.toList with
    | nil => simp [hcs] at h
    | cons c rest =>
        obtain rfl : c = '/' := by simpa [hcs] using h
        exact ⟨rest, rfl⟩
  rw [parts, hrest, splitSlashes_slash]
  rfl

theorem isAbsolute_intercalate (hne : names ≠ []) (h : ∀ name ∈ names, IsFileName name) :
    isAbsolute ("/".intercalate names) = false := by
  refine Bool.eq_false_iff.mpr fun habsolute => ?_
  have hhead := head?_parts_of_isAbsolute habsolute
  rw [parts_intercalate hne fun name hname => (h name hname).noSlash] at hhead
  exact (h "" (List.mem_of_mem_head? hhead)).ne_empty rfl

/-- A path in a directory starts where the directory does. -/
theorem isAbsolute_join (h : isAbsolute path = false) :
    isAbsolute (join directory path) = isAbsolute directory := by
  by_cases hempty : directory = ""
  · subst hempty
    have hjoin : join "" path = path := by simp [join]
    rw [hjoin, h]
    rfl
  · obtain ⟨c, rest, hcs⟩ := List.exists_cons_of_ne_nil (mt String.toList_eq_nil_iff.mp hempty)
    have hhead : ∀ more : String, (directory ++ more).toList.head? = directory.toList.head? := by
      intro more
      simp [hcs]
    unfold isAbsolute join
    split
    · rw [hhead]
    · rw [String.append_assoc, hhead]

end InfraSynth.Files
