import InfraSynth.Block.Write
import InfraSynth.Proofs.Collection.Occurrence

/-!
# What is in a block

What is looked up in a block after a write is the value written if the key is that of the
write, and otherwise what was there before.

A write has an effect unless its value is absent or is a list, a map or a series of
blocks that is empty.  The block that is built is determined by the writes with an
effect: its keys are theirs, in the order of the first ones, and the value of a key is
that of the last one.  The other writes may be left out, also among those that build
nested blocks.

All of this follows from what one write does: `Write.apply_eq` says that it inserts the
value `Write.value?` under its key, if there is one.
-/

namespace InfraSynth.Block

/-! ## Looking into blocks -/

section Look

variable {block : Block} {key other : String}

@[simp] theorem get?_empty : empty.get? key = none :=
  rfl

@[simp] theorem get?_attr {value : Json} :
    (block.attr key value).get? other = if key = other then some value else block.get? other :=
  Entries.get?_insert ..

@[simp] theorem get?_opt {value : Option Json} :
    (block.opt key value).get? other =
      if key = other then value.or (block.get? other) else block.get? other := by
  cases value with
  | none => simp [opt]
  | some x => simp [opt]

@[simp] theorem get?_optText {text : Option String} :
    (block.optText key text).get? other =
      if key = other then (text.map .string).or (block.get? other) else block.get? other :=
  get?_opt

@[simp] theorem get?_optNested {inner : Option Block} :
    (block.optNested key inner).get? other =
      if key = other then (inner.map toJson).or (block.get? other) else block.get? other :=
  get?_opt

theorem keys_attr {value : Json} : (block.attr key value).keys =
    if key ∈ block.keys then block.keys else block.keys ++ [key] :=
  Entries.keys_insert ..

end Look

/-! ## One write -/

namespace Write

/-- The key that is written. -/
def key : Write → String
  | attr key _ | opt key _ | optText key _ | list key _ | map key _ | nested key _
  | optNested key _ | emptyNested key | repeated key _ | encoded key _ => key

/-- Whether anything is written: nothing is if the value is absent, or if it is a list, a
map or a series of blocks that is empty. -/
def hasEffect : Write → Bool
  | opt _ value => value.isSome
  | optText _ value => value.isSome
  | list _ values => !values.isEmpty
  | map _ values => !values.isEmpty
  | optNested _ inner => inner.isSome
  | repeated _ inner => !inner.isEmpty
  | attr .. | nested .. | emptyNested _ | encoded .. => true

/-- The value that is written, if any is. -/
def value? : Write → Option Json
  | attr _ value => some value
  | opt _ value => value
  | optText _ value => value.map .string
  | list _ values => if values.isEmpty then none else some (.array values)
  | map _ values =>
    if values.isEmpty then none
    else some (.object (values.entries.map fun (k, v) => (k, .string v)))
  | nested _ inner => some (ofWrites inner).toJson
  | optNested _ inner => inner.map fun writes => (ofWrites writes).toJson
  | emptyNested _ => some (.object [])
  | repeated _ inner =>
    if inner.isEmpty then none
    else some (.array (inner.map fun writes => (ofWrites writes).toJson))
  | encoded _ value => some (.string value.compact)

theorem isSome_value? (write : Write) : write.value?.isSome = write.hasEffect := by
  cases write <;> simp [value?, hasEffect] <;> split <;> simp_all

end Write

variable {writes : List Write} {write : Write} {block : Block} {key other : String} {value : Json}

theorem optionalBlock_eq (inner : Option (List Write)) :
    optionalBlock inner = inner.map ofWrites := by
  cases inner <;> rfl

theorem blocksOfWrites_eq (inner : List (List Write)) :
    blocksOfWrites inner = inner.map ofWrites := by
  induction inner with
  | nil => rfl
  | cons writes rest ih => rw [blocksOfWrites, ih, List.map_cons, ofWrites]

/-- A write inserts its value, if it has one, under its key. -/
theorem Write.apply_eq (write : Write) (block : Block) :
    write.apply block = block.opt write.key write.value? := by
  cases write with
  | attr | opt | optText | nested | emptyNested | encoded => rfl
  | list key values =>
      simp only [apply, Block.list, value?, Write.key]
      split <;> rfl
  | map key values =>
      simp only [apply, Block.map, value?, Write.key]
      split <;> rfl
  | optNested key inner =>
      simp only [apply, Block.optNested, optionalBlock_eq, Option.map_map, value?, Write.key]
      rfl
  | repeated key inner =>
      simp only [apply, Block.repeated, Block.list, blocksOfWrites_eq, List.map_map,
        List.isEmpty_map, value?, Write.key]
      split <;> rfl

theorem Write.apply_of_not_hasEffect (h : write.hasEffect = false) (block : Block) :
    write.apply block = block := by
  rw [← Write.isSome_value?, Option.isSome_eq_false_iff, Option.isNone_iff_eq_none] at h
  rw [Write.apply_eq, h, Block.opt]

/-! ## A sequence of writes -/

theorem applyWrites_append (front back : List Write) (block : Block) :
    applyWrites (front ++ back) block = applyWrites back (applyWrites front block) := by
  induction front generalizing block with
  | nil => rfl
  | cons write rest ih => exact ih (write.apply block)

theorem ofWrites_append_singleton (writes : List Write) (write : Write) :
    ofWrites (writes ++ [write]) = (ofWrites writes).opt write.key write.value? := by
  rw [ofWrites, applyWrites_append, ofWrites, ← Write.apply_eq]
  rfl

/-- The keys are those of the writes with an effect, as they first come. -/
theorem listsOccurrences_keys_ofWrites (writes : List Write) :
    ListsOccurrences 0 ((writes.filter (·.hasEffect)).map (·.key)) (ofWrites writes).keys := by
  induction writes using List.reverseRecOn with
  | nil => exact .nil
  | append_singleton writes write ih =>
      rw [ofWrites_append_singleton, List.filter_append, List.map_append]
      cases hvalue : write.value? with
      | none =>
          have heffect : write.hasEffect = false := by rw [← write.isSome_value?, hvalue]; rfl
          rw [List.filter_singleton, heffect, cond_false, List.map_nil, List.append_nil]
          exact ih
      | some value =>
          have heffect : write.hasEffect = true := by rw [← write.isSome_value?, hvalue]; rfl
          rw [List.filter_singleton, heffect, cond_true, List.map_singleton, opt, keys_attr]
          split
          · rename_i hmem
            have hpos := (ih.mem_iff write.key).mp hmem
            exact ih.append_of_count_ne (by omega)
          · rename_i hmem
            have hpos := mt (ih.mem_iff write.key).mpr hmem
            exact ih.append_of_count_eq (by omega)

/-- The last write with an effect on a key gives it a value. -/
def WritesLast (writes : List Write) (key : String) (value : Json) : Prop :=
  ∃ front write back, writes = front ++ write :: back ∧ write.key = key ∧
    write.value? = some value ∧ ∀ later ∈ back, later.hasEffect = true → later.key ≠ key

theorem writesLast_append_singleton : WritesLast (writes ++ [write]) key value ↔
    (write.key = key ∧ write.value? = some value) ∨
      (write.hasEffect = true → write.key ≠ key) ∧ WritesLast writes key value := by
  constructor
  · rintro ⟨front, last, back, hwrites, hkey, hvalue, hback⟩
    rcases List.eq_nil_or_concat back with rfl | ⟨back, later, rfl⟩
    · obtain ⟨-, rfl⟩ := List.append_singleton_inj.mp hwrites
      exact Or.inl ⟨hkey, hvalue⟩
    · rw [List.concat_eq_append] at hwrites hback
      rw [← List.cons_append, ← List.append_assoc] at hwrites
      obtain ⟨rfl, rfl⟩ := List.append_singleton_inj.mp hwrites
      refine Or.inr ⟨hback write (by simp), front, last, back, rfl, hkey, hvalue, ?_⟩
      exact fun earlier hmem => hback earlier (List.mem_append_left _ hmem)
  · rintro (⟨hkey, hvalue⟩ | ⟨hother, front, last, back, rfl, hkey, hvalue, hback⟩)
    · exact ⟨writes, write, [], rfl, hkey, hvalue, fun _ h => absurd h List.not_mem_nil⟩
    · refine ⟨front, last, back ++ [write], by simp, hkey, hvalue, fun later hmem => ?_⟩
      rcases List.mem_append.mp hmem with hmem | hmem
      · exact hback later hmem
      · rwa [List.mem_singleton.mp hmem]

/-- The value of a key is that of the last write with an effect on it. -/
theorem get?_ofWrites_eq_some_iff :
    (ofWrites writes).get? key = some value ↔ WritesLast writes key value := by
  induction writes using List.reverseRecOn with
  | nil =>
      constructor
      · intro h
        cases h
      · rintro ⟨front, write, back, h, -⟩
        simp at h
  | append_singleton writes write ih =>
      rw [ofWrites_append_singleton, writesLast_append_singleton, ← ih, ← write.isSome_value?]
      cases write.value? with
      | none => simp [opt]
      | some last =>
          rw [opt, get?_attr]
          by_cases hkey : write.key = key <;> simp [hkey]

/-! ## Writes without an effect -/

mutual

/-- The write with its nested blocks pruned. -/
def Write.pruned : Write → Write
  | .nested key inner => .nested key (prune inner)
  | .optNested key inner => .optNested key (pruneOptional inner)
  | .repeated key inner => .repeated key (pruneAll inner)
  | write => write

/-- Leave out the writes without an effect, at every level. -/
def prune : List Write → List Write
  | [] => []
  | write :: rest => if write.hasEffect then write.pruned :: prune rest else prune rest

/-- Prune writes that may be absent. -/
def pruneOptional : Option (List Write) → Option (List Write)
  | none => none
  | some writes => some (prune writes)

/-- Prune several lists of writes. -/
def pruneAll : List (List Write) → List (List Write)
  | [] => []
  | writes :: rest => prune writes :: pruneAll rest

end

mutual

theorem Write.apply_pruned : ∀ (write : Write) (block : Block),
    write.pruned.apply block = write.apply block
  | .nested key inner, block => by
    rw [Write.pruned, Write.apply, Write.apply, applyWrites_prune inner]
  | .optNested key inner, block => by
    rw [Write.pruned, Write.apply, Write.apply, optionalBlock_prune inner]
  | .repeated key inner, block => by
    rw [Write.pruned, Write.apply, Write.apply, blocksOfWrites_prune inner]
  | .attr .., _ | .opt .., _ | .optText .., _ | .list .., _ | .map .., _ | .emptyNested _, _
  | .encoded .., _ => rfl
  termination_by structural write => write

theorem applyWrites_prune : ∀ (writes : List Write) (block : Block),
    applyWrites (prune writes) block = applyWrites writes block
  | [], _ => rfl
  | write :: rest, block => by
    rw [prune]
    split
    · rw [applyWrites, applyWrites, write.apply_pruned, applyWrites_prune rest]
    · rename_i heffect
      rw [applyWrites, Write.apply_of_not_hasEffect (by simpa using heffect),
        applyWrites_prune rest]
  termination_by structural writes => writes

theorem optionalBlock_prune : ∀ inner : Option (List Write),
    optionalBlock (pruneOptional inner) = optionalBlock inner
  | none => rfl
  | some writes => by
    rw [pruneOptional, optionalBlock, optionalBlock, applyWrites_prune writes]
  termination_by structural inner => inner

theorem blocksOfWrites_prune : ∀ inner : List (List Write),
    blocksOfWrites (pruneAll inner) = blocksOfWrites inner
  | [] => rfl
  | writes :: rest => by
    rw [pruneAll, blocksOfWrites, blocksOfWrites, applyWrites_prune writes,
      blocksOfWrites_prune rest]
  termination_by structural inner => inner

end

/-- **A block shows the writes with an effect and nothing else**: their keys, each once and
in the order of first writes, with the values written last, and the writes without an
effect may be left out at every level. -/
theorem ofWrites_shows_effects (writes : List Write) :
    ListsOccurrences 0 ((writes.filter (·.hasEffect)).map (·.key)) (ofWrites writes).keys ∧
      (∀ key value, (ofWrites writes).get? key = some value ↔ WritesLast writes key value) ∧
      ofWrites (prune writes) = ofWrites writes :=
  ⟨listsOccurrences_keys_ofWrites writes, fun _ _ => get?_ofWrites_eq_some_iff,
    applyWrites_prune writes .empty⟩

end InfraSynth.Block
