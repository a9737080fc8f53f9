import InfraSynth.Check.Basic
import InfraSynth.Check.Violation
import Mathlib.Logic.Basic

/-!
# When checks are passed

A check is passed if it lists no violation.  This module says for each check
what that means for the value it looks at: neither the path nor the wording of
the violation plays a part.  The checks of a resource are read as statements
about its attributes by rewriting with these equivalences.
-/

namespace InfraSynth

/-! ## Putting checks together -/

/-- A check of a value that may be absent. -/
@[simp] theorem toList_flatMap_eq_nil_iff {α β : Type} {value : Option α} {check : α → List β} :
    value.toList.flatMap check = [] ↔ ∀ x ∈ value, check x = [] := by
  cases value <;> simp

namespace Path

theorem flatMapItems_eq_nil_iff {α β : Type} {parent : String} {items : List α}
    {check : String → α → List β} :
    flatMapItems parent items check = [] ↔
      ∀ i (h : i < items.length), check (index parent i) items[i] = [] := by
  simp only [flatMapItems, List.flatMap_eq_nil_iff, Prod.forall]
  constructor
  · intro h i hi
    exact h _ i (List.mem_zipIdx_iff_getElem?.mpr (List.getElem?_eq_getElem hi))
  · intro h item i hitem
    have hget : items[i]? = some item := List.mem_zipIdx_iff_getElem?.mp hitem
    obtain ⟨hi, rfl⟩ := List.getElem?_eq_some_iff.mp hget
    exact h i hi

/-- What is found is found about an item, under its own path. -/
theorem mem_flatMapItems_iff {α β : Type} {parent : String} {items : List α}
    {check : String → α → List β} {found : β} : found ∈ flatMapItems parent items check ↔
      ∃ i item, items[i]? = some item ∧ found ∈ check (index parent i) item := by
  simp only [flatMapItems, List.mem_flatMap, Prod.exists, List.mem_zipIdx_iff_getElem?]
  exact exists_comm

/-- Where the path plays no part, every item passes the check on its own. -/
theorem flatMapItems_eq_nil_iff_forall {α β : Type} {parent : String} {items : List α}
    {check : String → α → List β} {good : α → Prop}
    (h : ∀ x ∈ items, ∀ path, check path x = [] ↔ good x) :
    flatMapItems parent items check = [] ↔ ∀ x ∈ items, good x := by
  rw [flatMapItems_eq_nil_iff]
  constructor
  · intro hall x hx
    obtain ⟨i, hi, rfl⟩ := List.mem_iff_getElem.mp hx
    exact (h _ hx _).mp (hall i hi)
  · intro hall i hi
    have hx : items[i] ∈ items := List.getElem_mem hi
    exact (h _ hx _).mpr (hall _ hx)

/-- An item may be replaced by one that passes the check in its place. -/
theorem flatMapItems_replace {α β : Type} {parent : String} {front back : List α} {x y : α}
    {check : String → α → List β}
    (hxy : check (index parent front.length) x = [] → check (index parent front.length) y = [])
    (h : flatMapItems parent (front ++ x :: back) check = []) :
    flatMapItems parent (front ++ y :: back) check = [] := by
  simp only [flatMapItems, List.zipIdx_append, List.zipIdx_cons, List.flatMap_append,
    List.flatMap_cons, List.append_eq_nil_iff, Nat.zero_add] at h ⊢
  exact ⟨h.1, hxy h.2.1, h.2.2⟩

theorem flatMapItems_map {α β γ : Type} {parent : String} {items : List α} {f : α → γ}
    {check : String → γ → List β} :
    flatMapItems parent (items.map f) check =
      flatMapItems parent items fun path x => check path (f x) := by
  simp only [flatMapItems, List.zipIdx_map, List.flatMap_map]
  rfl

end Path

/-- A text between `${` and `}` with something in it. -/
def Interpolation.IsReference (text : String) : Prop :=
  ∃ inner, inner ≠ [] ∧ text.toList = '$' :: '{' :: inner ++ ['}']

theorem Interpolation.isInterpolation_iff {text : String} :
    isInterpolation text = true ↔ IsReference text := by
  simp only [IsReference, isInterpolation, Text.startsWith, Text.endsWith, Bool.and_eq_true,
    List.isPrefixOf_iff_prefix, List.isSuffixOf_iff_suffix, decide_eq_true_eq,
    ← String.length_toList]
  constructor
  · rintro ⟨⟨⟨rest, hrest⟩, ⟨front, hfront⟩⟩, hlength⟩
    have hopen : "$\x7b".toList = ['$', '{'] := rfl
    have hclose : "\x7d".toList = ['}'] := rfl
    rw [hopen] at hrest
    rw [hclose] at hfront
    rw [← hrest] at hfront hlength
    have hlast := congrArg List.getLast? hfront
    rcases List.eq_nil_or_concat rest with rfl | ⟨inner, c, rfl⟩
    · simp at hlength
    · -- what closes the text stands after the opening
      obtain rfl : '}' = c := by
        rw [List.getLast?_concat, List.concat_eq_append, List.cons_append, List.cons_append,
          List.nil_append, ← List.cons_append, ← List.cons_append, List.getLast?_concat] at hlast
        exact Option.some.inj hlast
      refine ⟨inner, ?_, by rw [← hrest]; simp⟩
      rintro rfl
      simp at hlength
  · rintro ⟨inner, hinner, htext⟩
    refine ⟨⟨⟨inner ++ ['}'], htext.symm⟩, ⟨'$' :: '{' :: inner, htext.symm⟩⟩, ?_⟩
    have := List.length_pos_iff.mpr hinner
    rw [htext]
    simp
    omega

namespace Check

variable {field value : String}

/-! ## Single values -/

@[simp] theorem that_eq_nil_iff {condition : Bool} {rule : Rule} {message : String} :
    that condition rule field message = [] ↔ condition = true := by
  cases condition <;> simp [that]

@[simp] theorem mem_that_iff {condition : Bool} {rule : Rule} {message : String}
    {violation : Violation} : violation ∈ that condition rule field message ↔
      condition = false ∧ violation = ⟨rule, field, message⟩ := by
  cases condition <;> simp [that]

@[simp] theorem required_eq_nil_iff {present : Bool} :
    required field present = [] ↔ present = true :=
  that_eq_nil_iff

@[simp] theorem notBlank_eq_nil_iff :
    notBlank field value = [] ↔ ∃ c ∈ value.toList, ¬Unicode.isSpace c = true := by
  simp [notBlank, Unicode.isBlank]

@[simp] theorem format_eq_nil_iff {pattern : Pattern} {expected : String} :
    format field value pattern expected = [] ↔ pattern.accepts value = true :=
  that_eq_nil_iff

@[simp] theorem formatOrReference_eq_nil_iff {pattern : Pattern} {expected : String} :
    formatOrReference field value pattern expected = [] ↔
      Interpolation.IsReference value ∨ pattern.accepts value = true := by
  rw [← Interpolation.isInterpolation_iff]
  by_cases h : Interpolation.isInterpolation value = true <;> simp [formatOrReference, h]

@[simp] theorem range_eq_nil_iff {number low high : Int} :
    range field number low high = [] ↔ low ≤ number ∧ number ≤ high := by
  simp [range]

@[simp] theorem length_eq_nil_iff {low high : Nat} :
    length field value low high = [] ↔ low ≤ value.length ∧ value.length ≤ high := by
  simp [length]

@[simp] theorem oneOf_eq_nil_iff {allowed : List String} :
    oneOf field value allowed = [] ↔ value ∈ allowed := by
  simp [oneOf]

@[simp] theorem requires_eq_nil_iff {present dependencyPresent : Bool} {dependency : String} :
    requires field present dependency dependencyPresent = [] ↔
      (present = true → dependencyPresent = true) := by
  cases present <;> simp [requires]

@[simp] theorem forbids_eq_nil_iff {present condition : Bool} {reason : String} :
    forbids field present condition reason = [] ↔ ¬(present = true ∧ condition = true) := by
  cases present <;> simp [forbids]

@[simp] theorem count_some_eq_nil_iff {size low high : Nat} :
    count field size low (some high) = [] ↔ low ≤ size ∧ size ≤ high := by
  simp [count]

@[simp] theorem count_none_eq_nil_iff {size low : Nat} :
    count field size low none = [] ↔ low ≤ size := by
  simp [count]

/-! ## Groups of fields -/

theorem Group.length_present (group : Group) :
    group.present.length = (group.map (·.2)).count true := by
  simp only [Group.present, List.length_map, List.count_eq_countP, List.countP_map,
    ← List.countP_eq_length_filter]
  refine List.countP_congr fun entry _ => ?_
  simp

@[simp] theorem exactlyOneOf_eq_nil_iff {group : Group} :
    exactlyOneOf group = [] ↔ (group.map (·.2)).count true = 1 := by
  simp [exactlyOneOf, Group.length_present]

theorem exactlyOneOf_pair_eq_nil_iff {first second : String} {a b : Bool} :
    exactlyOneOf [(first, a), (second, b)] = [] ↔ Xor (a = true) (b = true) := by
  simp only [exactlyOneOf_eq_nil_iff, List.map_cons, List.map_nil]
  revert a b
  decide

@[simp] theorem atMostOneOf_eq_nil_iff {group : Group} :
    atMostOneOf group = [] ↔ (group.map (·.2)).count true ≤ 1 := by
  simp [atMostOneOf, Group.length_present]

/-- Exactly one of several flags is set: the first one and no other, or another
one. -/
theorem count_true_cons_eq_one {flag : Bool} {flags : List Bool} :
    (flag :: flags).count true = 1 ↔
      (flag = true ∧ ∀ other ∈ flags, other = false) ∨
        (flag = false ∧ flags.count true = 1) := by
  cases flag with
  | false => simp
  | true =>
      simp only [List.count_cons_self, Nat.add_eq_right, true_and, reduceCtorEq, false_and,
        or_false, List.count_eq_zero]
      constructor
      · intro h other hother
        exact Bool.eq_false_iff.mpr fun htrue => h (htrue ▸ hother)
      · intro h htrue
        exact Bool.noConfusion (h true htrue)

/-! ## Repetitions -/

theorem repetitions_eq_nil_iff {α : Type} [BEq α] [LawfulBEq α] {seen values : List α} :
    repetitions seen [] values = [] ↔ values.Nodup ∧ ∀ x ∈ values, x ∉ seen := by
  induction values generalizing seen with
  | nil => simp [repetitions]
  | cons x rest ih =>
      by_cases hx : x ∈ seen
      · simp [repetitions, hx]
      · simp only [repetitions, List.contains_iff_mem, hx, if_false, ih, List.nodup_cons,
          List.mem_cons, forall_eq_or_imp, not_or, not_false_eq_true, true_and]
        constructor
        · rintro ⟨hnodup, hrest⟩
          exact ⟨⟨fun hmem => (hrest x hmem).1 rfl, hnodup⟩, fun y hy => (hrest y hy).2⟩
        · rintro ⟨⟨hnot, hnodup⟩, hrest⟩
          exact ⟨hnodup, fun y hy => ⟨fun heq => hnot (heq ▸ hy), hrest y hy⟩⟩

@[simp] theorem unique_eq_nil_iff {values : List String} :
    unique field values = [] ↔ values.Nodup := by
  simp [unique, repetitions_eq_nil_iff]

end Check

end InfraSynth
