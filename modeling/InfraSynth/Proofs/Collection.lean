import InfraSynth.Collection.SortedMap
import Mathlib.Data.List.Forall2
import Mathlib.Data.List.Induction
import Mathlib.Data.List.Nodup

/-!
# Entries and sorted maps

What inserting does to the keys and values of entries, and of maps sorted by
key.  A sorted map is determined by its entries: inserting these one after the
other gives the map again, `SortedMap.ofEntries_entries`.

Inserting one entry after the other leaves what `Entries.merged` and
`Entries.grouped` say about the whole history of the entries, without any
inserting: `merged_append_singleton` and `grouped_append_singleton` are the
steps.
-/

namespace InfraSynth

/-! ## Lists that are related item by item -/

section Related

variable {α β γ : Type} {R : α → β → Prop} {xs : List α} {ys : List β}

theorem map_eq_of_forall₂ {f : α → γ} {g : β → γ} (h : List.Forall₂ R xs ys)
    (hfg : ∀ x y, R x y → f x = g y) : xs.map f = ys.map g := by
  have hmap : List.Forall₂ (· = ·) (xs.map f) (ys.map g) := List.rel_map hfg h
  rwa [List.forall₂_eq_eq_eq] at hmap

theorem filterMap_eq_of_forall₂ {f : α → Option γ} {g : β → Option γ} (h : List.Forall₂ R xs ys)
    (hfg : ∀ x y, R x y → f x = g y) : xs.filterMap f = ys.filterMap g := by
  have hrel : Relator.LiftFun R (Option.Rel (· = ·)) f g := by
    intro x y hxy
    rw [hfg x y hxy]
    cases g y with
    | none => exact .none
    | some z => exact .some rfl
  have hmap : List.Forall₂ (· = ·) (xs.filterMap f) (ys.filterMap g) := List.rel_filterMap hrel h
  rwa [List.forall₂_eq_eq_eq] at hmap

theorem any_eq_of_forall₂ {f : α → Bool} {g : β → Bool} (h : List.Forall₂ R xs ys)
    (hfg : ∀ x y, R x y → f x = g y) : xs.any f = ys.any g := by
  have hmap := congrArg (List.any · id) (map_eq_of_forall₂ h hfg)
  rwa [List.any_map, List.any_map] at hmap

theorem isSome_eq_of_rel {x : Option α} {y : Option β} (h : Option.Rel R x y) :
    x.isSome = y.isSome := by
  cases h <;> rfl

theorem exists_of_rel_some {x : α} {y : Option β} (h : Option.Rel R (some x) y) :
    ∃ z, y = some z ∧ R x z := by
  cases h with
  | some hxz => exact ⟨_, rfl, hxz⟩

theorem exists_of_rel_of_some {x : Option α} {y : β} (h : Option.Rel R x (some y)) :
    ∃ z, x = some z ∧ R z y := by
  cases h with
  | some hzy => exact ⟨_, rfl, hzy⟩

/-- Items that all have a related one are related to a list. -/
theorem exists_forall₂ (h : ∀ x ∈ xs, ∃ y, R x y) :
    ∃ ys, List.Forall₂ R xs ys := by
  induction xs with
  | nil => exact ⟨[], .nil⟩
  | cons x xs ih =>
      obtain ⟨y, hxy⟩ := h x (List.mem_cons_self ..)
      obtain ⟨ys, hys⟩ := ih fun x hx => h x (List.mem_cons_of_mem _ hx)
      exact ⟨y :: ys, .cons hxy hys⟩

theorem exists_of_forall₂ (h : List.Forall₂ R xs ys) {x : α} (hx : x ∈ xs) : ∃ y, R x y := by
  induction h with
  | nil => cases hx
  | cons hxy _ ih =>
      rcases List.mem_cons.mp hx with rfl | hx
      · exact ⟨_, hxy⟩
      · exact ih hx

theorem getElem?_rel (h : List.Forall₂ R xs ys) (i : Nat) : Option.Rel R xs[i]? ys[i]? := by
  induction h generalizing i with
  | nil => exact .none
  | cons hxy _ ih =>
      cases i with
      | zero => exact .some hxy
      | succ i => simpa using ih i

end Related

/-! ## Entries and maps -/

variable {α : Type} {key : String} {value : α}

namespace Entries

variable {entries : Entries α}

theorem insert_of_not_mem (h : key ∉ keys entries) :
    insert entries key value = entries ++ [(key, value)] := by
  induction entries with
  | nil => rfl
  | cons entry rest ih =>
      obtain ⟨k, old⟩ := entry
      simp only [keys, List.map_cons, List.mem_cons, not_or] at h
      have hne : ¬k = key := fun heq => h.1 heq.symm
      rw [insert, if_neg hne, ih h.2, List.cons_append]

theorem mem_insert {entry : String × α} (h : entry ∈ insert entries key value) :
    entry = (key, value) ∨ entry ∈ entries := by
  induction entries with
  | nil => exact Or.inl (List.mem_singleton.mp h)
  | cons first rest ih =>
      obtain ⟨k, old⟩ := first
      unfold insert at h
      split at h
      · rename_i heq
        subst heq
        rcases List.mem_cons.mp h with hfirst | hrest
        · exact Or.inl hfirst
        · exact Or.inr (List.mem_cons_of_mem _ hrest)
      · rcases List.mem_cons.mp h with hfirst | hrest
        · exact Or.inr (hfirst ▸ List.mem_cons_self ..)
        · exact (ih hrest).imp_right (List.mem_cons_of_mem _)

/-- Of two values for one key the second one stays. -/
theorem insert_insert (entries : Entries α) (key : String) (first second : α) :
    insert (insert entries key first) key second = insert entries key second := by
  induction entries with
  | nil => simp [insert]
  | cons entry rest ih =>
      obtain ⟨k, old⟩ := entry
      by_cases hk : k = key
      · simp [insert, hk]
      · simp [insert, hk, ih]

theorem mem_of_get? (h : get? entries key = some value) : (key, value) ∈ entries := by
  induction entries with
  | nil => cases h
  | cons entry rest ih =>
      obtain ⟨k, old⟩ := entry
      unfold get? at h
      split at h
      · rename_i hk
        cases h
        rw [hk]
        exact List.mem_cons_self ..
      · exact List.mem_cons_of_mem _ (ih h)

/-- A key keeps the value that it has. -/
theorem insert_self (h : get? entries key = some value) : insert entries key value = entries := by
  induction entries with
  | nil => cases h
  | cons entry rest ih =>
      obtain ⟨k, old⟩ := entry
      unfold get? at h
      unfold insert
      split at h
      · rename_i hk
        cases h
        rw [if_pos hk, hk]
      · rename_i hk
        rw [if_neg hk, ih h]

theorem nodup_keys_insert (h : (keys entries).Nodup) :
    (keys (insert entries key value)).Nodup := by
  rw [keys_insert]
  split
  · exact h
  · rename_i hmem
    refine List.nodup_append.mpr ⟨h, by simp, fun a ha b hb heq => ?_⟩
    rw [List.mem_singleton.mp hb] at heq
    exact hmem (heq ▸ ha)

theorem get?_eq_none_iff : get? entries key = none ↔ key ∉ keys entries := by
  induction entries with
  | nil => simp [get?, keys]
  | cons entry rest ih =>
      obtain ⟨k, old⟩ := entry
      by_cases hk : k = key
      · simp [get?, keys, hk]
      · have hne : key ≠ k := fun heq => hk heq.symm
        rw [get?, if_neg hk, ih]
        simp [keys, hne]

theorem isSome_get?_iff : (get? entries key).isSome = true ↔ key ∈ keys entries := by
  rw [Option.isSome_iff_ne_none, ne_eq, get?_eq_none_iff, Classical.not_not]

/-- Entries with distinct keys are determined by their keys and the values of
these. -/
theorem ext_of_nodup {first second : Entries α} (hnodup : (keys first).Nodup)
    (hkeys : keys first = keys second) (hget : ∀ k, get? first k = get? second k) :
    first = second := by
  induction first generalizing second with
  | nil =>
      cases second with
      | nil => rfl
      | cons entry rest => cases hkeys
  | cons entry rest ih =>
      cases second with
      | nil => cases hkeys
      | cons other others =>
          obtain ⟨k, x⟩ := entry
          obtain ⟨l, y⟩ := other
          obtain ⟨rfl, htail⟩ : k = l ∧ keys rest = keys others := by simpa [keys] using hkeys
          obtain ⟨hnew, hrest⟩ : k ∉ keys rest ∧ (keys rest).Nodup := by
            simpa [keys] using hnodup
          have hxy : x = y := by simpa [get?] using hget k
          -- the first key does not occur again, so it hides nothing in the rest
          have htails : ∀ l, get? rest l = get? others l := by
            intro l
            by_cases hl : k = l
            · subst hl
              rw [get?_eq_none_iff.mpr hnew, get?_eq_none_iff.mpr (htail ▸ hnew)]
            · simpa [get?, hl] using hget l
          rw [hxy, ih hrest htail htails]

/-- With distinct keys, a key has a value exactly if they are an entry. -/
theorem get?_eq_some_iff (hnodup : (keys entries).Nodup) :
    get? entries key = some value ↔ (key, value) ∈ entries := by
  induction entries with
  | nil => simp [get?]
  | cons entry rest ih =>
      obtain ⟨k, old⟩ := entry
      obtain ⟨hnew, hrest⟩ : k ∉ keys rest ∧ (keys rest).Nodup := by simpa [keys] using hnodup
      by_cases hk : k = key
      · subst hk
        have hmem : (k, value) ∉ rest := fun h => hnew (List.mem_map_of_mem h)
        simp [get?, hmem, eq_comm]
      · have hne : key ≠ k := fun heq => hk heq.symm
        rw [get?, if_neg hk, ih hrest]
        simp [hne]

/-- With distinct keys the order of the entries does not matter. -/
theorem get?_of_perm {first second : Entries α} (hnodup : (keys first).Nodup)
    (h : first.Perm second) : get? first key = get? second key := by
  have hsecond : (keys second).Nodup := (h.map Prod.fst).nodup_iff.mp hnodup
  refine Option.ext fun x => ?_
  rw [get?_eq_some_iff hnodup, get?_eq_some_iff hsecond, h.mem_iff]

theorem keys_map {β : Type} (f : α → β) :
    keys (entries.map fun entry => (entry.1, f entry.2)) = keys entries := by
  simp [keys]

theorem get?_map {β : Type} (f : α → β) :
    get? (entries.map fun entry => (entry.1, f entry.2)) key = (get? entries key).map f := by
  induction entries with
  | nil => rfl
  | cons entry rest ih =>
      obtain ⟨k, x⟩ := entry
      by_cases hk : k = key
      · simp [get?, hk]
      · simpa [get?, hk] using ih

theorem get?_filter (keep : α → Bool) (hnodup : (keys entries).Nodup) :
    get? (entries.filter fun entry => keep entry.2) key = (get? entries key).filter keep := by
  induction entries with
  | nil => rfl
  | cons entry rest ih =>
      obtain ⟨k, x⟩ := entry
      obtain ⟨hnew, hrest⟩ : k ∉ keys rest ∧ (keys rest).Nodup := by simpa [keys] using hnodup
      by_cases hk : k = key
      · subst hk
        cases hkeep : keep x
        · rw [List.filter_cons_of_neg (by simp [hkeep]), ih hrest, get?_eq_none_iff.mpr hnew]
          simp [get?, hkeep, Option.filter]
        · simp [get?, hkeep, Option.filter]
      · cases hkeep : keep x <;> simpa [get?, hk, hkeep] using ih hrest

theorem get?_reverse (hnodup : (keys entries).Nodup) :
    get? entries.reverse key = get? entries key :=
  (get?_of_perm hnodup (List.reverse_perm entries).symm).symm

/-! ## Entries from a history -/

/-- The keys with the values that a function gives to them. -/
def tabulate (keys : List String) (f : String → Option α) : Entries α :=
  keys.filterMap fun key => (f key).map (key, ·)

theorem keys_tabulate {ks : List String} {f : String → Option α}
    (h : ∀ k ∈ ks, (f k).isSome = true) : keys (tabulate ks f) = ks := by
  induction ks with
  | nil => rfl
  | cons k rest ih =>
      obtain ⟨x, hx⟩ := Option.isSome_iff_exists.mp (h k (List.mem_cons_self ..))
      have hrest := ih fun l hl => h l (List.mem_cons_of_mem _ hl)
      simp only [tabulate, keys, List.filterMap_cons, hx, Option.map_some, List.map_cons] at hrest ⊢
      rw [hrest]

theorem get?_tabulate {ks : List String} {f : String → Option α} :
    get? (tabulate ks f) key = if key ∈ ks then f key else none := by
  induction ks with
  | nil => rfl
  | cons k rest ih =>
      rw [tabulate] at ih ⊢
      by_cases hk : k = key
      · subst hk
        cases hx : f k with
        | some x => simp [hx, get?]
        | none => simp [hx, ih]
      · have hne : key ≠ k := fun heq => hk heq.symm
        cases hx : f k with
        | some x => simp [hx, get?, hk, ih, hne]
        | none => simp [hx, ih, hne]

theorem eq_some_of_mem_tabulate {ks : List String} {f : String → Option α}
    (h : (key, value) ∈ tabulate ks f) : f key = some value := by
  obtain ⟨k, -, hk⟩ := List.mem_filterMap.mp h
  obtain ⟨x, hx, heq⟩ := Option.map_eq_some_iff.mp hk
  obtain ⟨rfl, rfl⟩ := Prod.mk.inj heq
  exact hx

/-- The keys in the order in which they first came, each with the value that was
given to it last. -/
def merged (history : Entries α) : Entries α :=
  tabulate (keys history).eraseDups (get? history.reverse)

/-- The entries of one group. -/
def ofGroup (history : List (String × String × α)) (group : String) : Entries α :=
  history.filterMap fun item => if item.1 = group then some item.2 else none

/-- The groups in the order in which they first came, each with its entries. -/
def grouped (history : List (String × String × α)) : Entries (Entries α) :=
  tabulate (history.map Prod.fst).eraseDups fun group => some (ofGroup history group)

theorem eraseDups_append_singleton (ks : List String) (k : String) :
    (ks ++ [k]).eraseDups = if k ∈ ks then ks.eraseDups else ks.eraseDups ++ [k] := by
  rw [List.eraseDups_append]
  by_cases hk : k ∈ ks <;> simp [List.removeAll, hk, List.eraseDups_cons]

theorem nodup_eraseDups (ks : List String) : ks.eraseDups.Nodup := by
  induction ks using List.reverseRecOn with
  | nil => simp
  | append_singleton rest k ih =>
      rw [eraseDups_append_singleton]
      split
      · exact ih
      · rename_i hk
        refine List.nodup_append.mpr ⟨ih, by simp, fun a ha b hb heq => hk ?_⟩
        rw [← List.mem_singleton.mp hb, ← heq]
        exact List.mem_eraseDups.mp ha

theorem keys_merged (history : Entries α) : keys (merged history) = (keys history).eraseDups := by
  refine keys_tabulate fun k hk => isSome_get?_iff.mpr ?_
  simpa [keys] using List.mem_eraseDups.mp hk

theorem get?_merged (history : Entries α) :
    get? (merged history) key = get? history.reverse key := by
  rw [merged, get?_tabulate]
  split
  · rfl
  · rename_i hkey
    refine (get?_eq_none_iff.mpr fun hmem => hkey (List.mem_eraseDups.mpr ?_)).symm
    simpa [keys] using hmem

/-- One more entry is inserted. -/
theorem merged_append_singleton (history : Entries α) :
    merged (history ++ [(key, value)]) = insert (merged history) key value := by
  have hkeys : keys (history ++ [(key, value)]) = keys history ++ [key] := by simp [keys]
  -- both sides have the same keys in the same order, and the same value for each
  refine ext_of_nodup ?_ ?_ fun k => ?_
  · rw [keys_merged]
    exact nodup_eraseDups _
  · rw [keys_insert, keys_merged, keys_merged, hkeys, eraseDups_append_singleton]
    simp only [List.mem_eraseDups]
  · rw [get?_insert, get?_merged, get?_merged, List.reverse_append]
    rfl

/-- Entries with distinct keys are a history in which nothing is replaced. -/
theorem merged_of_nodup (hnodup : (keys entries).Nodup) : merged entries = entries := by
  induction entries using List.reverseRecOn with
  | nil => rfl
  | append_singleton rest entry ih =>
      obtain ⟨k, x⟩ := entry
      rw [keys, List.map_append, List.map_singleton, List.nodup_append] at hnodup
      have hnew : k ∉ keys rest := fun hk => hnodup.2.2 k hk k (List.mem_singleton_self k) rfl
      rw [merged_append_singleton, ih hnodup.1, insert_of_not_mem hnew]

/-- Inserting one entry after the other merges them. -/
theorem insertAll_nil (more : Entries α) : insertAll [] more = merged more := by
  induction more using List.reverseRecOn with
  | nil => rfl
  | append_singleton rest entry ih =>
      obtain ⟨key, value⟩ := entry
      rw [merged_append_singleton, ← ih, insertAll, List.foldl_append]
      rfl

theorem eraseDups_perm {ks others : List String} (h : ks.Perm others) :
    ks.eraseDups.Perm others.eraseDups := by
  refine (List.perm_ext_iff_of_nodup (nodup_eraseDups ks) (nodup_eraseDups others)).mpr ?_
  intro k
  rw [List.mem_eraseDups, List.mem_eraseDups, h.mem_iff]

theorem grouped_eq_map (history : List (String × String × α)) :
    grouped history =
      (history.map Prod.fst).eraseDups.map fun group => (group, ofGroup history group) :=
  congrFun List.filterMap_eq_map _

theorem ofGroup_perm {history other : List (String × String × α)} (h : history.Perm other)
    (group : String) : (ofGroup history group).Perm (ofGroup other group) :=
  h.filterMap _

theorem keys_grouped (history : List (String × String × α)) :
    keys (grouped history) = (history.map Prod.fst).eraseDups :=
  keys_tabulate fun _ _ => rfl

theorem ofGroup_append_singleton (history : List (String × String × α)) {group other : String} :
    ofGroup (history ++ [(group, key, value)]) other =
      if group = other then ofGroup history other ++ [(key, value)] else ofGroup history other := by
  by_cases h : group = other <;> simp [ofGroup, h]

theorem ofGroup_eq_nil_of_not_mem {history : List (String × String × α)} {group : String}
    (h : group ∉ history.map Prod.fst) : ofGroup history group = [] := by
  refine List.filterMap_eq_nil_iff.mpr fun item hitem => if_neg fun heq => h ?_
  exact heq ▸ List.mem_map_of_mem hitem

theorem getD_get?_grouped (history : List (String × String × α)) (group : String) :
    (get? (grouped history) group).getD [] = ofGroup history group := by
  rw [grouped, get?_tabulate]
  split
  · rfl
  · rename_i hgroup
    exact (ofGroup_eq_nil_of_not_mem fun h => hgroup (List.mem_eraseDups.mpr h)).symm

theorem mem_ofGroup_iff {history : List (String × String × α)} {group : String} :
    (key, value) ∈ ofGroup history group ↔ (group, key, value) ∈ history := by
  simp only [ofGroup, List.mem_filterMap, Option.ite_none_right_eq_some, Option.some.injEq]
  constructor
  · rintro ⟨⟨g, item⟩, hitem, rfl, rfl⟩
    exact hitem
  · intro h
    exact ⟨_, h, rfl, rfl⟩

theorem mem_keys_ofGroup_iff {history : List (String × String × α)} {group : String} :
    key ∈ keys (ofGroup history group) ↔ (group, key) ∈ history.map fun (g, k, _) => (g, k) := by
  constructor
  · intro h
    obtain ⟨⟨k, x⟩, hmem, rfl⟩ := List.mem_map.mp h
    exact List.mem_map.mpr ⟨_, mem_ofGroup_iff.mp hmem, rfl⟩
  · intro h
    obtain ⟨⟨g, k, x⟩, hmem, heq⟩ := List.mem_map.mp h
    obtain ⟨rfl, rfl⟩ := Prod.mk.inj heq
    exact List.mem_map_of_mem (mem_ofGroup_iff.mpr hmem)

theorem nodup_keys_ofGroup {history : List (String × String × α)} {group : String}
    (h : (history.map fun (g, k, _) => (g, k)).Nodup) : (keys (ofGroup history group)).Nodup := by
  induction history using List.reverseRecOn with
  | nil => simp [ofGroup, keys]
  | append_singleton rest item ih =>
      obtain ⟨g, k, x⟩ := item
      rw [List.map_append, List.map_singleton, List.nodup_append] at h
      rw [ofGroup_append_singleton]
      split
      · rename_i hgroup
        have hnew : k ∉ keys (ofGroup rest group) := fun hk =>
          h.2.2 _ (mem_keys_ofGroup_iff.mp hk) _ (List.mem_singleton_self _) (by rw [hgroup])
        rw [← insert_of_not_mem hnew]
        exact nodup_keys_insert (ih h.1)
      · exact ih h.1

/-- One more entry of a group that does not have its key is inserted into the
group. -/
theorem grouped_append_singleton {history : List (String × String × α)} {group : String}
    (hnew : key ∉ keys (ofGroup history group)) :
    grouped (history ++ [(group, key, value)]) =
      insert (grouped history) group
        (insert ((get? (grouped history) group).getD []) key value) := by
  rw [getD_get?_grouped, insert_of_not_mem hnew]
  refine ext_of_nodup ?_ ?_ fun k => ?_
  · rw [keys_grouped]
    exact nodup_eraseDups _
  · rw [keys_insert, keys_grouped, keys_grouped, List.map_append, List.map_singleton,
      eraseDups_append_singleton]
    simp only [List.mem_eraseDups]
  · have hmem : k ∈ ((history ++ [(group, key, value)]).map Prod.fst).eraseDups ↔
        k ∈ (history.map Prod.fst).eraseDups ∨ k = group := by
      simp [List.mem_eraseDups]
    rw [get?_insert, grouped, grouped, get?_tabulate, get?_tabulate, ofGroup_append_singleton]
    by_cases hk : group = k
    · subst hk
      rw [if_pos (hmem.mpr (Or.inr rfl)), if_pos rfl, if_pos rfl]
    · have hne : k ≠ group := fun heq => hk heq.symm
      simp only [hmem, hne, or_false, if_neg hk]

/-! ## Entries that are related one by one -/

section Related

variable {β : Type} {R : α → β → Prop} {others : Entries β}

/-- Entries are related if their keys are the same and their values are related. -/
def Related (R : α → β → Prop) (entries : Entries α) (others : Entries β) : Prop :=
  List.Forall₂ (fun entry other => entry.1 = other.1 ∧ R entry.2 other.2) entries others

theorem Related.keys_eq (h : Related R entries others) : keys entries = keys others :=
  map_eq_of_forall₂ h fun _ _ hentry => hentry.1

theorem Related.get? (h : Related R entries others) (key : String) :
    Option.Rel R (Entries.get? entries key) (Entries.get? others key) := by
  induction h with
  | nil => exact .none
  | @cons entry other _ _ hentry _ ih =>
      obtain ⟨k, x⟩ := entry
      obtain ⟨l, y⟩ := other
      obtain ⟨rfl, hxy⟩ : k = l ∧ R x y := hentry
      by_cases hk : k = key
      · simpa [Entries.get?, hk] using Option.Rel.some hxy
      · simpa [Entries.get?, hk] using ih

theorem Related.reverse (h : Related R entries others) : Related R entries.reverse others.reverse :=
  List.rel_reverse h

end Related

end Entries

namespace SortedMap

theorem ext {first second : SortedMap α} (h : first.entries = second.entries) :
    first = second := by
  cases first
  cases second
  cases h
  rfl

/-- A key that is greater than all others goes to the end. -/
theorem place_of_forall_lt {entries : Entries α} (h : ∀ k ∈ Entries.keys entries, k < key) :
    place key value entries = entries ++ [(key, value)] := by
  induction entries with
  | nil => rfl
  | cons entry rest ih =>
      obtain ⟨k, old⟩ := entry
      have hlt : k < key := h k (List.mem_cons_self ..)
      have hnot : ¬key < k := String.lt_asymm hlt
      have hne : ¬k = key := fun heq => String.lt_irrefl _ (heq ▸ hlt)
      rw [place, if_neg hnot, if_neg hne, ih fun k hk => h k (List.mem_cons_of_mem _ hk),
        List.cons_append]

theorem entries_insertAll {map : SortedMap α} {more : Entries α}
    (h : (Entries.keys (map.entries ++ more)).Pairwise (· < ·)) :
    (map.insertAll more).entries = map.entries ++ more := by
  induction more generalizing map with
  | nil => simp [insertAll]
  | cons entry rest ih =>
      obtain ⟨k, x⟩ := entry
      have hlast : ∀ other ∈ Entries.keys map.entries, other < k := by
        intro other hother
        rw [Entries.keys, List.map_append, List.pairwise_append] at h
        exact h.2.2 other hother k (List.mem_cons_self ..)
      have hinsert : (map.insert k x).entries = map.entries ++ [(k, x)] :=
        place_of_forall_lt hlast
      have hall : map.insertAll ((k, x) :: rest) = (map.insert k x).insertAll rest := rfl
      rw [hall, ih (by rw [hinsert]; simpa using h), hinsert, List.append_assoc]
      rfl

theorem nodup_keys (map : SortedMap α) : (Entries.keys map.entries).Nodup :=
  map.increasing.imp String.ne_of_lt

theorem get?_place {entries : Entries α} {other : String} :
    Entries.get? (place key value entries) other =
      if key = other then some value else Entries.get? entries other := by
  induction entries with
  | nil => rfl
  | cons entry rest ih =>
      obtain ⟨k, old⟩ := entry
      rw [place]
      split
      · rfl
      · split
        · rename_i hk
          subst hk
          by_cases hother : k = other <;> simp [Entries.get?, hother]
        · rename_i hk
          by_cases hother : k = other
          · subst hother
            have hne : key ≠ k := fun heq => hk heq.symm
            simp [Entries.get?, hne]
          · simpa [Entries.get?, hother] using ih

/-- Of several values for a key the last one stays. -/
theorem get?_insertAll {map : SortedMap α} {more : Entries α} :
    (map.insertAll more).get? key = (Entries.get? more.reverse key).or (map.get? key) := by
  induction more using List.reverseRecOn with
  | nil => rfl
  | append_singleton rest entry ih =>
      obtain ⟨k, x⟩ := entry
      have hlast : map.insertAll (rest ++ [(k, x)]) = (map.insertAll rest).insert k x := by
        simp [insertAll]
      rw [hlast, get?, insert, get?_place, ← get?, ih, List.reverse_append]
      by_cases hk : k = key <;> simp [Entries.get?, hk]

/-- Of two maps put together the second one wins. -/
theorem get?_insertAll_entries {first second : SortedMap α} :
    (first.insertAll second.entries).get? key = (second.get? key).or (first.get? key) := by
  rw [get?_insertAll, Entries.get?_reverse second.nodup_keys]
  rfl

theorem get?_ofEntries {entries : Entries α} (hnodup : (Entries.keys entries).Nodup) :
    (ofEntries entries).get? key = Entries.get? entries key := by
  rw [ofEntries, get?_insertAll, Entries.get?_reverse hnodup]
  exact Option.or_none

/-- A map is determined by what is found in it. -/
theorem ext_get? {first second : SortedMap α} (h : ∀ key, first.get? key = second.get? key) :
    first = second := by
  have hmem : ∀ key, key ∈ Entries.keys first.entries ↔ key ∈ Entries.keys second.entries := by
    intro key
    rw [← Entries.isSome_get?_iff, ← Entries.isSome_get?_iff]
    exact iff_of_eq (congrArg (fun value => Option.isSome value = true) (h key))
  have hkeys : Entries.keys first.entries = Entries.keys second.entries :=
    ((List.perm_ext_iff_of_nodup first.nodup_keys second.nodup_keys).mpr hmem).eq_of_pairwise
      (fun _ _ _ _ hlt hgt => absurd (String.lt_trans hlt hgt) (String.lt_irrefl _))
      first.increasing second.increasing
  exact ext (Entries.ext_of_nodup first.nodup_keys hkeys h)

/-- With distinct keys, the order of the entries plays no part. -/
theorem ofEntries_of_perm {first second : Entries α} (hnodup : (Entries.keys first).Nodup)
    (h : first.Perm second) : ofEntries first = ofEntries second := by
  have hsecond : (Entries.keys second).Nodup := (h.map Prod.fst).nodup_iff.mp hnodup
  refine ext_get? fun key => ?_
  rw [get?_ofEntries hnodup, get?_ofEntries hsecond, Entries.get?_of_perm hnodup h]

/-- A map is given by its entries. -/
theorem ofEntries_entries (map : SortedMap α) : ofEntries map.entries = map :=
  ext (entries_insertAll map.increasing)

/-- A map with other values. -/
def map {β : Type} (f : α → β) (map : SortedMap α) : SortedMap β where
  entries := map.entries.map fun entry => (entry.1, f entry.2)
  increasing := by
    rw [Entries.keys_map]
    exact map.increasing

theorem get?_map {β : Type} (f : α → β) (map : SortedMap α) (key : String) :
    (map.map f).get? key = (map.get? key).map f :=
  Entries.get?_map f

theorem map_id (map : SortedMap α) : map.map id = map :=
  ext (List.map_id _)

theorem map_eq_self_iff {f : α → α} {map : SortedMap α} :
    map.map f = map ↔ ∀ key x, map.get? key = some x → f x = x := by
  constructor
  · intro h key x hx
    have hget := map.get?_map f key
    rw [h, hx] at hget
    exact (Option.some.inj hget).symm
  · intro h
    refine ext_get? fun key => ?_
    rw [get?_map]
    cases hx : map.get? key with
    | none => rfl
    | some x => rw [Option.map_some, h key x hx]

end SortedMap

end InfraSynth
