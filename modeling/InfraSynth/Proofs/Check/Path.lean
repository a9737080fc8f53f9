import InfraSynth.Proofs.Check
import InfraSynth.Proofs.Text

/-!
# What is reported under a path

A violation is reported under a path if the field that it names begins with the path.
Two items of a list have nothing under both their paths, `eq_of_isUnder_index`: the number
in the path of an item ends with a bracket, which is no digit.

A violation about a group of fields names several paths, with commas between them.  Below
a path that is given these are told by the text, `Path.Listed.unique`, since the names of
fields have no commas.  `Check.NamesOnly` says of a whole check how the paths that its
violations name go on after what they have in common.
-/

namespace InfraSynth

/-- The field that the violation names, or the first one, is a path or lies below it. -/
def Violation.IsUnder (violation : Violation) (path : String) : Prop :=
  path.toList <+: violation.field.toList

instance (violation : Violation) (path : String) : Decidable (violation.IsUnder path) :=
  inferInstanceAs (Decidable (path.toList <+: violation.field.toList))

namespace Path

variable {parent child : String} {i j : Nat}

/-- What stands before the name of a field in its path. -/
def stem (parent : String) : List Char :=
  if parent.isEmpty then [] else parent.toList ++ ['.']

theorem toList_field : (field parent child).toList = stem parent ++ child.toList := by
  unfold field stem
  split <;> simp [Text.toString_eq]

theorem toList_index :
    (index parent i).toList = parent.toList ++ '[' :: (Nat.toDigits 10 i ++ [']']) := by
  simp [index, Text.toString_eq, Nat.toList_repr]

theorem stem_field (h : child.isEmpty = false) :
    stem (field parent child) = stem parent ++ (child.toList ++ ['.']) := by
  have hnonempty : (field parent child).isEmpty = false := by
    unfold field
    split <;> simp_all [Text.toString_eq]
  rw [stem, hnonempty, toList_field, List.append_assoc]
  rfl

/-- After a path there is a point, or nothing. -/
theorem exists_stem_eq (parent : String) :
    ∃ point, stem parent = parent.toList ++ point ∧ ',' ∉ point := by
  unfold stem
  split
  · rename_i hempty
    rw [String.isEmpty_iff.mp hempty]
    exact ⟨[], rfl, List.not_mem_nil⟩
  · exact ⟨['.'], rfl, by decide⟩

theorem prefix_stem_append {text : List Char} : parent.toList <+: stem parent ++ text := by
  obtain ⟨point, hstem, -⟩ := exists_stem_eq parent
  rw [hstem, List.append_assoc]
  exact List.prefix_append ..

theorem prefix_toList_field : parent.toList <+: (field parent child).toList := by
  rw [toList_field]
  exact prefix_stem_append

/-- Where fields are listed, the first one comes first. -/
theorem prefix_toList_listed {first second : String} :
    first.toList <+: (Check.listed [first, second]).toList := by
  rw [Check.listed, String.intercalate_cons_cons, String.toList_append, String.toList_append,
    List.append_assoc]
  exact List.prefix_append ..

theorem bracket_not_mem_toDigits (i : Nat) : ']' ∉ Nat.toDigits 10 i := by
  intro hmem
  exact absurd (Text.isAsciiDigit_of_mem_toDigits hmem) (by decide)

/-- What the path of an item ends with has no comma. -/
theorem comma_not_mem_number (i : Nat) : ',' ∉ Nat.toDigits 10 i ++ [']'] := by
  intro hmem
  rcases List.mem_append.mp hmem with hdigit | hbracket
  · exact absurd (Text.isAsciiDigit_of_mem_toDigits hdigit) (by decide)
  · exact absurd hbracket (by decide)

/-- The paths of two items of a list do not begin the same text. -/
theorem eq_of_prefix_index {text : List Char} (h : (index parent i).toList <+: text)
    (h' : (index parent j).toList <+: text) : i = j := by
  obtain ⟨rest, hrest⟩ := h
  obtain ⟨rest', hrest'⟩ := h'
  have htext := hrest.trans hrest'.symm
  simp only [toList_index, List.append_assoc, List.cons_append, List.nil_append,
    List.append_cancel_left_eq, List.cons.injEq, true_and] at htext
  obtain ⟨hdigits, -⟩ :=
    Text.append_cons_inj (bracket_not_mem_toDigits i) (bracket_not_mem_toDigits j) htext
  rw [← Text.digitsValue_toDigits i, hdigits, Text.digitsValue_toDigits]

/-- Of two items of a list nothing is under both paths. -/
theorem eq_of_isUnder_index {violation : Violation} (h : violation.IsUnder (index parent i))
    (h' : violation.IsUnder (index parent j)) : i = j :=
  eq_of_prefix_index h h'

theorem field_field {name : String} (h : name.isEmpty = false) :
    field (field parent name) child = field parent (name ++ "." ++ child) := by
  refine String.toList_injective ?_
  rw [toList_field, stem_field h, toList_field]
  simp

/-! ## Paths that a field lists -/

theorem listed_singleton (path : String) : Check.listed [path] = path :=
  String.intercalate_singleton

theorem toList_listed_cons_cons (path next : String) (more : List String) :
    (Check.listed (path :: next :: more)).toList =
      path.toList ++ ',' :: ' ' :: (Check.listed (next :: more)).toList := by
  rw [Check.listed, String.intercalate_cons_cons, String.toList_append, String.toList_append,
    List.append_assoc]
  rfl

/-- The paths that a field lists.  All of them begin alike, and what follows then has no
comma. -/
structure Listed (base : List Char) (field : String) (paths : List String) : Prop where
  ne_nil : paths ≠ []
  field_eq : field = Check.listed paths
  begins : ∀ path ∈ paths, ∃ rest, path.toList = base ++ rest ∧ ',' ∉ rest

/-- The paths are told by the field and by what they begin with. -/
theorem Listed.unique {base : List Char} {field : String} {paths others : List String}
    (h : Listed base field paths) (h' : Listed base field others) : paths = others := by
  obtain ⟨hne, hfield, hpaths⟩ := h
  obtain ⟨hne', hfield', hothers⟩ := h'
  rw [hfield] at hfield'
  clear hfield field
  induction paths generalizing others with
  | nil => exact absurd rfl hne
  | cons path more ih =>
      obtain ⟨other, others, rfl⟩ := List.exists_cons_of_ne_nil hne'
      obtain ⟨⟨rest, hpath, hrest⟩, hmore⟩ := List.forall_mem_cons.mp hpaths
      obtain ⟨⟨rest', hother, hrest'⟩, hothers⟩ := List.forall_mem_cons.mp hothers
      have htext := congrArg String.toList hfield'
      rcases more with _ | ⟨next, more⟩ <;> rcases others with _ | ⟨next', others⟩
      · rw [listed_singleton, listed_singleton] at hfield'
        rw [hfield']
      · -- the first path would have a comma
        rw [listed_singleton, toList_listed_cons_cons, hpath, hother, List.append_assoc,
          List.append_cancel_left_eq] at htext
        exact absurd (by simp [htext]) hrest
      · rw [listed_singleton, toList_listed_cons_cons, hpath, hother, List.append_assoc,
          List.append_cancel_left_eq] at htext
        exact absurd (by simp [← htext]) hrest'
      · rw [toList_listed_cons_cons, toList_listed_cons_cons, hpath, hother, List.append_assoc,
          List.append_assoc, List.append_cancel_left_eq] at htext
        obtain ⟨hsame, hlisted⟩ := Text.append_cons_inj hrest hrest' htext
        have hfirst : path = other := by rw [← String.toList_inj, hpath, hother, hsame]
        have hnext := String.toList_injective (List.cons.inj hlisted).2
        rw [hfirst, ih (List.cons_ne_nil _ _) hmore (List.cons_ne_nil _ _) hnext hothers]

end Path

/-! ## What the violations of a check name -/

/-- The paths that the violation names begin with `base` and go on as `good` says. -/
def Violation.Names (violation : Violation) (base : List Char) (good : List Char → Prop) : Prop :=
  ∃ paths, paths ≠ [] ∧ violation.field = Check.listed paths ∧
    ∀ path ∈ paths, ∃ rest, path.toList = base ++ rest ∧ ',' ∉ rest ∧ good rest

/-- What begins with a longer text begins with a shorter one. -/
theorem Violation.Names.of_append {violation : Violation} {base more : List Char}
    {good good' : List Char → Prop} (h : violation.Names (base ++ more) good') (hcomma : ',' ∉ more)
    (hgood : ∀ rest, good' rest → good (more ++ rest)) : violation.Names base good := by
  obtain ⟨paths, hne, hfield, hpaths⟩ := h
  refine ⟨paths, hne, hfield, fun path hpath => ?_⟩
  obtain ⟨rest, hrest, hnot, hrest'⟩ := hpaths path hpath
  refine ⟨more ++ rest, by rw [hrest, List.append_assoc], ?_, hgood rest hrest'⟩
  rw [List.mem_append, not_or]
  exact ⟨hcomma, hnot⟩

theorem Violation.Names.exists_listed {violation : Violation} {base : List Char}
    {good : List Char → Prop} (h : violation.Names base good) :
    ∃ paths, Path.Listed base violation.field paths ∧
      ∀ path ∈ paths, ∃ rest, path.toList = base ++ rest ∧ good rest := by
  obtain ⟨paths, hne, hfield, hpaths⟩ := h
  refine ⟨paths, ⟨hne, hfield, fun path hpath => ?_⟩, fun path hpath => ?_⟩
  · obtain ⟨rest, hrest, hcomma, -⟩ := hpaths path hpath
    exact ⟨rest, hrest, hcomma⟩
  · obtain ⟨rest, hrest, -, hgood⟩ := hpaths path hpath
    exact ⟨rest, hrest, hgood⟩

namespace Check

/-- All violations name paths that begin with `base` and go on as `good` says. -/
def NamesOnly (base : List Char) (good : List Char → Prop) (violations : List Violation) : Prop :=
  ∀ violation ∈ violations, violation.Names base good

/-- All violations name paths that begin with the given one. -/
abbrev NamesUnder (path : String) (violations : List Violation) : Prop :=
  NamesOnly path.toList (fun _ => True) violations

section NamesOnly

variable {base more : List Char} {good good' : List Char → Prop} {first second : List Violation}

theorem NamesOnly.nil : NamesOnly base good [] :=
  fun _ h => absurd h List.not_mem_nil

theorem NamesOnly.append (h : NamesOnly base good first) (h' : NamesOnly base good second) :
    NamesOnly base good (first ++ second) :=
  fun violation hmem => (List.mem_append.mp hmem).elim (h violation) (h' violation)

theorem NamesOnly.toList_flatMap {α : Type} {value : Option α} {check : α → List Violation}
    (h : ∀ x ∈ value, NamesOnly base good (check x)) :
    NamesOnly base good (value.toList.flatMap check) := by
  intro violation hmem
  obtain ⟨x, hx, hviolation⟩ := List.mem_flatMap.mp hmem
  exact h x (Option.mem_toList.mp hx) violation hviolation

theorem NamesOnly.toList_map_flatMap {α β : Type} {value : Option α} {f : α → β}
    {check : β → List Violation} (h : ∀ x ∈ value, NamesOnly base good (check (f x))) :
    NamesOnly base good ((value.map f).toList.flatMap check) := by
  rw [Option.toList_map, List.flatMap_map]
  exact .toList_flatMap h

theorem NamesOnly.flatMapItems {α : Type} {parent : String} {items : List α}
    {check : String → α → List Violation}
    (h : ∀ i, ∀ x ∈ items, NamesOnly base good (check (Path.index parent i) x)) :
    NamesOnly base good (Path.flatMapItems parent items check) := by
  intro violation hmem
  obtain ⟨i, x, hx, hviolation⟩ := Path.mem_flatMapItems_iff.mp hmem
  exact h i x (List.mem_of_getElem? hx) violation hviolation

theorem NamesOnly.of_append {violations : List Violation}
    (h : NamesOnly (base ++ more) good' violations) (hcomma : ',' ∉ more)
    (hgood : ∀ rest, good' rest → good (more ++ rest)) : NamesOnly base good violations :=
  fun violation hmem => (h violation hmem).of_append hcomma hgood

theorem namesOnly_that {condition : Bool} {rule : Rule} {field message : String}
    {rest : List Char} (hfield : field.toList = base ++ rest) (hcomma : ',' ∉ rest)
    (hgood : good rest) : NamesOnly base good (that condition rule field message) := by
  intro violation hmem
  obtain ⟨-, rfl⟩ := mem_that_iff.mp hmem
  refine ⟨[field], List.cons_ne_nil _ _, (Path.listed_singleton field).symm, ?_⟩
  rintro path hpath
  obtain rfl := List.mem_singleton.mp hpath
  exact ⟨rest, hfield, hcomma, hgood⟩

theorem namesOnly_exactlyOneOf {group : Group} (hne : group ≠ [])
    (h : ∀ name ∈ group.map Prod.fst,
      ∃ rest, name.toList = base ++ rest ∧ ',' ∉ rest ∧ good rest) :
    NamesOnly base good (exactlyOneOf group) := by
  intro violation hmem
  obtain ⟨-, rfl⟩ := mem_that_iff.mp hmem
  exact ⟨group.map Prod.fst, by simpa using hne, rfl, h⟩

end NamesOnly

section Fields

variable {path child : String} {good : List Char → Prop} {violations : List Violation}

theorem namesOnly_that_field {condition : Bool} {rule : Rule} {message : String}
    (hcomma : ',' ∉ child.toList) (hgood : good child.toList) :
    NamesOnly (Path.stem path) good (that condition rule (Path.field path child) message) :=
  namesOnly_that Path.toList_field hcomma hgood

theorem namesOnly_exactlyOneOf_fields (group : Group) (names : List String)
    (hnames : group.map Prod.fst = names) (hne : names ≠ [])
    (h : ∀ name ∈ names, ',' ∉ name.toList ∧ good name.toList) :
    NamesOnly (Path.stem path) good
      (exactlyOneOf (group.map fun (name, present) => (Path.field path name, present))) := by
  have hfields : (group.map fun (name, present) => (Path.field path name, present)).map Prod.fst =
      names.map (Path.field path) := by
    rw [← hnames, List.map_map, List.map_map]
    rfl
  refine namesOnly_exactlyOneOf (fun hnil => hne ?_) fun name hname => ?_
  · rw [← hnames, List.map_eq_nil_iff.mp hnil, List.map_nil]
  · rw [hfields] at hname
    obtain ⟨child, hchild, rfl⟩ := List.mem_map.mp hname
    exact ⟨child.toList, Path.toList_field, h child hchild⟩

theorem namesUnder_that {condition : Bool} {rule : Rule} {message : String} :
    NamesUnder path (that condition rule path message) :=
  namesOnly_that (List.append_nil _).symm List.not_mem_nil trivial

/-- What is named below a path is named under it. -/
theorem NamesUnder.of_stem (h : NamesOnly (Path.stem path) good violations) :
    NamesUnder path violations := by
  obtain ⟨point, hstem, hcomma⟩ := Path.exists_stem_eq path
  rw [hstem] at h
  exact NamesOnly.of_append h hcomma fun _ _ => trivial

theorem NamesUnder.of_field (h : NamesUnder (Path.field path child) violations)
    (hcomma : ',' ∉ child.toList) : NamesUnder path violations := by
  rw [NamesUnder, Path.toList_field] at h
  have hstem : NamesOnly (Path.stem path) (fun _ => True) violations :=
    NamesOnly.of_append h hcomma fun _ _ => trivial
  exact .of_stem hstem

theorem NamesUnder.of_index {i : Nat} (h : NamesUnder (Path.index path i) violations) :
    NamesUnder path violations := by
  rw [NamesUnder, Path.toList_index] at h
  have hcomma : ',' ∉ '[' :: (Nat.toDigits 10 i ++ [']']) :=
    List.not_mem_cons_of_ne_of_not_mem (by decide) (Path.comma_not_mem_number i)
  exact NamesOnly.of_append h hcomma fun _ _ => trivial

theorem namesUnder_that_field {condition : Bool} {rule : Rule} {message : String}
    (h : ',' ∉ child.toList) :
    NamesUnder path (that condition rule (Path.field path child) message) :=
  namesUnder_that.of_field h

theorem namesUnder_that_append {rest : String} {condition : Bool} {rule : Rule}
    {message : String} (h : ',' ∉ rest.toList) :
    NamesUnder path (that condition rule (path ++ rest) message) :=
  namesOnly_that String.toList_append h trivial

theorem namesUnder_exactlyOneOf_fields (group : Group) (names : List String)
    (hnames : group.map Prod.fst = names) (hne : names ≠ [])
    (h : ∀ name ∈ names, ',' ∉ name.toList) :
    NamesUnder path
      (exactlyOneOf (group.map fun (name, present) => (Path.field path name, present))) := by
  have hstem : NamesOnly (Path.stem path) (fun _ => True)
      (exactlyOneOf (group.map fun (name, present) => (Path.field path name, present))) :=
    namesOnly_exactlyOneOf_fields group names hnames hne fun name hname => ⟨h name hname, trivial⟩
  exact .of_stem hstem

end Fields

end Check

end InfraSynth
