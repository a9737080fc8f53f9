import InfraSynth.Json.Printer
import InfraSynth.Proofs.Json.KeyOrder
import InfraSynth.Proofs.Json.ReadBack

/-!
# What does not depend on the order of keys

Two values that differ in nothing but the order of keys are nested equally deeply,
and their texts have the same length.  Taken apart, their parts are related in the
same way: `Reordered` adds that keys are distinct, so that this is all there is to
say about the entries of an object.
-/

namespace InfraSynth.Json

variable {value other : Json} {items : List Json} {entries others : Entries Json}

/-! ## Depth -/

theorem depthEntries_eq_of_perm (h : entries.Perm others) :
    depthEntries entries = depthEntries others := by
  induction h with
  | nil => rfl
  | cons entry _ ih => rw [depthEntries, depthEntries, ih]
  | swap first second rest =>
      simp only [depthEntries]
      omega
  | trans _ _ ih₁ ih₂ => exact ih₁.trans ih₂

mutual

theorem SameUpToOrder.depth_eq : ∀ {value other : Json}, SameUpToOrder value other →
    value.depth = other.depth
  | _, _, .refl _ => rfl
  | _, _, .array h => by rw [depth, depth, h.depth_eq]
  | _, _, .object h horder => by rw [depth, depth, h.depth_eq, depthEntries_eq_of_perm horder]

theorem SameItems.depth_eq : ∀ {items others : List Json}, SameItems items others →
    depthItems items = depthItems others
  | _, _, .nil => rfl
  | _, _, .cons h hrest => by rw [depthItems, depthItems, h.depth_eq, hrest.depth_eq]

theorem SameValues.depth_eq : ∀ {entries others : Entries Json}, SameValues entries others →
    depthEntries entries = depthEntries others
  | _, _, .nil => rfl
  | _, _, .cons _ h hrest => by rw [depthEntries, depthEntries, h.depth_eq, hrest.depth_eq]

end

/-! ## Length -/

theorem quote_append (text : String) (front tail : List Char) :
    quote text (front ++ tail) = quote text front ++ tail := by
  simp [quote]

mutual

/-- What follows a value plays no part in its text. -/
theorem render_append : ∀ (value : Json) (front tail : List Char),
    value.render (front ++ tail) = value.render front ++ tail
  | .null, _, _ | .bool true, _, _ | .bool false, _, _ => rfl
  | .number value, front, tail => by simp [render]
  | .string text, front, tail => quote_append text front tail
  | .array items, front, tail =>
    congrArg ('[' :: ·) (renderItems_append true items (']' :: front) tail)
  | .object entries, front, tail =>
    congrArg ('{' :: ·) (renderEntries_append true entries ('}' :: front) tail)
  termination_by structural value => value

theorem renderItems_append : ∀ (first : Bool) (items : List Json) (front tail : List Char),
    renderItems first items (front ++ tail) = renderItems first items front ++ tail
  | _, [], _, _ => rfl
  | first, item :: rest, front, tail => by
    rw [renderItems, renderItems, renderItems_append, render_append]
    cases first <;> rfl
  termination_by structural _ items => items

theorem renderEntries_append : ∀ (first : Bool) (entries : List (String × Json))
    (front tail : List Char),
    renderEntries first entries (front ++ tail) = renderEntries first entries front ++ tail
  | _, [], _, _ => rfl
  | first, (key, value) :: rest, front, tail => by
    rw [renderEntries, renderEntries, renderEntries_append, render_append, ← List.cons_append,
      quote_append]
    cases first <;> rfl
  termination_by structural _ entries => entries

end

theorem length_render (value : Json) (tail : List Char) :
    (value.render tail).length = value.compact.length + tail.length := by
  rw [← List.nil_append tail, render_append, List.length_append]
  simp [compact]

theorem length_quote (text : String) (tail : List Char) :
    (quote text tail).length = (Json.string text).compact.length + tail.length :=
  length_render (.string text) tail

theorem length_renderItems_cons (first : Bool) (item : Json) (rest : List Json)
    (tail : List Char) :
    (renderItems first (item :: rest) tail).length =
      (if first then 0 else 1) + item.compact.length + (renderItems false rest tail).length := by
  cases first <;> simp [renderItems, length_render]
  omega

theorem length_renderEntries_cons (first : Bool) (key : String) (value : Json)
    (rest : Entries Json) (tail : List Char) :
    (renderEntries first ((key, value) :: rest) tail).length =
      (if first then 0 else 1) + (Json.string key).compact.length + 1 + value.compact.length +
        (renderEntries false rest tail).length := by
  cases first <;> simp [renderEntries, length_quote, length_render] <;> omega

theorem length_renderEntries_of_perm (h : entries.Perm others) (first : Bool) (tail : List Char) :
    (renderEntries first entries tail).length = (renderEntries first others tail).length := by
  induction h generalizing first with
  | nil => rfl
  | cons entry _ ih => rw [length_renderEntries_cons, length_renderEntries_cons, ih]
  | swap entry next rest =>
      obtain ⟨key, value⟩ := entry
      obtain ⟨second, inner⟩ := next
      simp only [length_renderEntries_cons]
      cases first <;> simp <;> omega
  | trans _ _ ih₁ ih₂ => exact (ih₁ first).trans (ih₂ first)

mutual

/-- The order of keys plays no part in the length of a text. -/
theorem SameUpToOrder.length_compact_eq : ∀ {value other : Json}, SameUpToOrder value other →
    value.compact.length = other.compact.length
  | _, _, .refl _ => rfl
  | _, _, .array h => by
    have hitems := h.length_renderItems_eq true [']']
    simp [compact, render, hitems]
  | _, _, .object h horder => by
    have hvalues := h.length_renderEntries_eq true ['}']
    rw [length_renderEntries_of_perm horder] at hvalues
    simp [compact, render, hvalues]

theorem SameItems.length_renderItems_eq : ∀ {items others : List Json}, SameItems items others →
    ∀ (first : Bool) (tail : List Char),
      (renderItems first items tail).length = (renderItems first others tail).length
  | _, _, .nil, _, _ => rfl
  | _, _, .cons h hrest, _, tail => by
    rw [length_renderItems_cons, length_renderItems_cons, h.length_compact_eq,
      hrest.length_renderItems_eq]

theorem SameValues.length_renderEntries_eq : ∀ {entries others : Entries Json},
    SameValues entries others → ∀ (first : Bool) (tail : List Char),
      (renderEntries first entries tail).length = (renderEntries first others tail).length
  | _, _, .nil, _, _ => rfl
  | _, _, .cons _ h hrest, _, tail => by
    rw [length_renderEntries_cons, length_renderEntries_cons, h.length_compact_eq,
      hrest.length_renderEntries_eq]

end

/-! ## Taking values apart -/

theorem SameItems.refl (items : List Json) : SameItems items items := by
  induction items with
  | nil => exact .nil
  | cons item rest ih => exact .cons (.refl item) ih

/-- The second value is the first one with keys in another order, and no object has a
key twice. -/
structure Reordered (value other : Json) : Prop where
  distinctKeys : value.DistinctKeys
  sameUpToOrder : value.SameUpToOrder other

theorem forall₂_of_sameItems {others : List Json} (h : SameItems items others)
    (hkeys : ∀ item ∈ items, item.DistinctKeys) : List.Forall₂ Reordered items others := by
  induction items generalizing others with
  | nil =>
      cases h
      exact .nil
  | cons item rest ih =>
      cases h with
      | cons h hrest =>
          obtain ⟨hitem, hitems⟩ := List.forall_mem_cons.mp hkeys
          exact .cons ⟨hitem, h⟩ (ih hrest hitems)

theorem forall₂_of_sameValues (h : SameValues entries others)
    (hkeys : ∀ entry ∈ entries, entry.2.DistinctKeys) :
    List.Forall₂ (fun entry other => entry.1 = other.1 ∧ Reordered entry.2 other.2)
      entries others := by
  induction entries generalizing others with
  | nil =>
      cases h
      exact .nil
  | cons entry rest ih =>
      cases h with
      | cons key h hrest =>
          obtain ⟨hentry, hentries⟩ := List.forall_mem_cons.mp hkeys
          exact .cons ⟨rfl, hentry, h⟩ (ih hrest hentries)

namespace Reordered

theorem refl (hkeys : value.DistinctKeys) : Reordered value value :=
  ⟨hkeys, .refl value⟩

/-- A value without parts is left as it is. -/
theorem eq_of_depth (h : Reordered value other) (hdepth : value.depth = 0) : other = value := by
  cases h.sameUpToOrder with
  | refl => rfl
  | array | object => simp [depth] at hdepth

theorem eq_null_iff (h : Reordered value other) : value = .null ↔ other = .null := by
  constructor
  · rintro rfl
    exact h.eq_of_depth rfl
  · rintro rfl
    cases h.sameUpToOrder
    rfl

theorem exists_array (h : Reordered (.array items) other) :
    ∃ others, other = .array others ∧ List.Forall₂ Reordered items others := by
  have hkeys : ∀ item ∈ items, item.DistinctKeys := fun _ => h.distinctKeys.item
  cases h.sameUpToOrder with
  | refl => exact ⟨items, rfl, forall₂_of_sameItems (.refl items) hkeys⟩
  | array hitems => exact ⟨_, rfl, forall₂_of_sameItems hitems hkeys⟩

/-- Entries are reordered one by one, and then among themselves. -/
theorem exists_object (h : Reordered (.object entries) other) :
    ∃ middle others, other = .object others ∧ middle.Perm others ∧
      List.Forall₂ (fun entry other => entry.1 = other.1 ∧ Reordered entry.2 other.2)
        entries middle := by
  have hkeys : ∀ entry ∈ entries, entry.2.DistinctKeys := fun _ => h.distinctKeys.entry
  cases h.sameUpToOrder with
  | refl => exact ⟨entries, entries, rfl, .refl _, forall₂_of_sameValues (.refl entries) hkeys⟩
  | object hvalues horder => exact ⟨_, _, rfl, horder, forall₂_of_sameValues hvalues hkeys⟩

theorem get? (h : Reordered (.object entries) (.object others)) (key : String) :
    Option.Rel Reordered (Entries.get? entries key) (Entries.get? others key) := by
  have hrel := h.sameUpToOrder.get? h.distinctKeys.nodup key
  generalize hvalue : Entries.get? entries key = found at hrel ⊢
  generalize Entries.get? others key = second at hrel ⊢
  cases hrel with
  | none => exact .none
  | some hsame =>
      exact .some ⟨h.distinctKeys.entry (Entries.mem_of_get? hvalue), hsame⟩

/-! ### What is read off a value -/

theorem text?_eq (h : Reordered value other) : value.text? = other.text? := by
  cases value with
  | array items =>
      obtain ⟨others, rfl, -⟩ := h.exists_array
      rfl
  | object entries =>
      obtain ⟨_, others, rfl, -, -⟩ := h.exists_object
      rfl
  | null | bool _ | number _ | string _ => rw [h.eq_of_depth rfl]

theorem bind_text?_eq {value other : Option Json} (h : Option.Rel Reordered value other) :
    value.bind text? = other.bind text? := by
  cases h with
  | none => rfl
  | some hvalue => exact hvalue.text?_eq

theorem entries? (h : Reordered value other) :
    Option.Rel (fun entries others => Reordered (.object entries) (.object others))
      value.entries? other.entries? := by
  cases value with
  | array items =>
      obtain ⟨others, rfl, -⟩ := h.exists_array
      exact .none
  | object entries =>
      obtain ⟨_, others, rfl, -, -⟩ := h.exists_object
      exact .some h
  | null | bool _ | number _ | string _ =>
      rw [h.eq_of_depth rfl]
      exact .none

end Reordered

end InfraSynth.Json
