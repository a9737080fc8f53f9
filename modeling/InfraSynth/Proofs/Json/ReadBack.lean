import InfraSynth.Proofs.Collection
import InfraSynth.Proofs.Json.Scalar
import InfraSynth.Proofs.Outcome

/-!
# Values read back from their text

`parse_compact` says that the text of a value, written without spaces, holds
that value.  Three things can stand in the way: containers that are nested too
deeply for a reader, numbers whose text stands for another number, and objects
in which a key occurs twice, because of these only one entry is kept.

## Strategy

A text is first read into a draft.  `readValue_render` follows the reader along
what is written for a value, with any text behind it that ends a number, and
shows that the draft is `Draft.ofJson`, the value as it stands.
`toJson_ofJson` then completes the draft.
-/

namespace InfraSynth

/-- The number reads back from its own text. -/
def Number.ReadsBack (number : Number) : Prop :=
  Json.readNumber (Json.numberChars number) = .ok (number, [])

namespace Json

/-! ## Parts of values -/

/-- A value is another one or occurs in it. -/
inductive Occurs : Json → Json → Prop
  | self (value : Json) : Occurs value value
  | item {part item : Json} {items : List Json} (hitem : item ∈ items) (h : Occurs part item) :
      Occurs part (.array items)
  | entry {part value : Json} {key : String} {entries : List (String × Json)}
      (hentry : (key, value) ∈ entries) (h : Occurs part value) : Occurs part (.object entries)

/-- Every number in the value reads back from its own text. -/
def NumbersReadBack (value : Json) : Prop :=
  ∀ number, Occurs (.number number) value → number.ReadsBack

/-- No object in the value has a key twice. -/
def DistinctKeys (value : Json) : Prop :=
  ∀ entries, Occurs (.object entries) value → (Entries.keys entries).Nodup

variable {items : List Json} {entries : List (String × Json)}

@[simp] theorem occurs_array_iff {part : Json} :
    Occurs part (.array items) ↔ part = .array items ∨ ∃ item ∈ items, Occurs part item := by
  constructor
  · intro h
    cases h with
    | self => exact Or.inl rfl
    | item hitem h => exact Or.inr ⟨_, hitem, h⟩
  · rintro (rfl | ⟨item, hitem, h⟩)
    · exact .self _
    · exact .item hitem h

@[simp] theorem occurs_object_iff {part : Json} :
    Occurs part (.object entries) ↔
      part = .object entries ∨ ∃ entry ∈ entries, Occurs part entry.2 := by
  constructor
  · intro h
    cases h with
    | self => exact Or.inl rfl
    | entry hentry h => exact Or.inr ⟨_, hentry, h⟩
  · rintro (rfl | ⟨⟨key, value⟩, hentry, h⟩)
    · exact .self _
    · exact .entry hentry h

@[simp] theorem occurs_null_iff {part : Json} : Occurs part .null ↔ part = .null :=
  ⟨fun h => by cases h; rfl, fun h => h ▸ .self _⟩

@[simp] theorem occurs_bool_iff {part : Json} {flag : Bool} :
    Occurs part (.bool flag) ↔ part = .bool flag :=
  ⟨fun h => by cases h; rfl, fun h => h ▸ .self _⟩

@[simp] theorem occurs_number_iff {part : Json} {number : Number} :
    Occurs part (.number number) ↔ part = .number number :=
  ⟨fun h => by cases h; rfl, fun h => h ▸ .self _⟩

@[simp] theorem occurs_string_iff {part : Json} {text : String} :
    Occurs part (.string text) ↔ part = .string text :=
  ⟨fun h => by cases h; rfl, fun h => h ▸ .self _⟩

theorem NumbersReadBack.readsBack {number : Number} (h : (Json.number number).NumbersReadBack) :
    number.ReadsBack :=
  h number (.self _)

theorem NumbersReadBack.item {item : Json} (h : (Json.array items).NumbersReadBack)
    (hitem : item ∈ items) : item.NumbersReadBack :=
  fun number hnumber => h number (.item hitem hnumber)

theorem NumbersReadBack.entry {key : String} {value : Json}
    (h : (Json.object entries).NumbersReadBack) (hentry : (key, value) ∈ entries) :
    value.NumbersReadBack :=
  fun number hnumber => h number (.entry hentry hnumber)

theorem DistinctKeys.nodup (h : (Json.object entries).DistinctKeys) :
    (Entries.keys entries).Nodup :=
  h entries (.self _)

theorem DistinctKeys.item {item : Json} (h : (Json.array items).DistinctKeys)
    (hitem : item ∈ items) : item.DistinctKeys :=
  fun inner hinner => h inner (.item hitem hinner)

theorem DistinctKeys.entry {key : String} {value : Json} (h : (Json.object entries).DistinctKeys)
    (hentry : (key, value) ∈ entries) : value.DistinctKeys :=
  fun inner hinner => h inner (.entry hentry hinner)

@[simp] theorem distinctKeys_array_iff :
    (Json.array items).DistinctKeys ↔ ∀ item ∈ items, item.DistinctKeys := by
  refine ⟨fun h _ => h.item, fun h inner hinner => ?_⟩
  obtain ⟨item, hitem, hpart⟩ : ∃ item ∈ items, Occurs (.object inner) item := by
    simpa using hinner
  exact h item hitem inner hpart

@[simp] theorem distinctKeys_object_iff :
    (Json.object entries).DistinctKeys ↔
      (Entries.keys entries).Nodup ∧ ∀ entry ∈ entries, entry.2.DistinctKeys := by
  refine ⟨fun h => ⟨h.nodup, fun _ => h.entry⟩, fun ⟨hnodup, h⟩ inner hinner => ?_⟩
  rcases occurs_object_iff.mp hinner with heq | ⟨entry, hentry, hpart⟩
  · obtain rfl := Json.object.inj heq
    exact hnodup
  · exact h entry hentry inner hpart

/-! ## What is written is read into a draft -/

mutual

/-- A value as a draft without fault. -/
def Draft.ofJson : Json → Draft
  | .null => .null
  | .bool value => .bool value
  | .number value => .number value
  | .string value => .string value
  | .array items => .array (ofItems items) none
  | .object entries => .object (ofEntries entries) none

/-- Items as drafts. -/
def Draft.ofItems : List Json → List Draft
  | [] => []
  | item :: rest => Draft.ofJson item :: ofItems rest

/-- Entries as drafts. -/
def Draft.ofEntries : List (String × Json) → List (String × Draft)
  | [] => []
  | (key, value) :: rest => (key, Draft.ofJson value) :: ofEntries rest

end

/-- Whether a character stands between values, so that none begins with it. -/
private def isSeparator (c : Char) : Bool :=
  isSpace c || c = ']' || c = '}' || c = ','

private theorem not_isSeparator_of_numeral {c : Char}
    (h : c = '-' ∨ Text.isAsciiDigit c = true) : isSeparator c = false := by
  rcases h with rfl | hdigit
  · rfl
  · refine Bool.eq_false_iff.mpr fun hseparator => ?_
    simp only [isSeparator, isSpace, Bool.or_eq_true, decide_eq_true_eq] at hseparator
    rcases hseparator with (((((rfl | rfl) | rfl) | rfl) | rfl) | rfl) | rfl <;>
      simp [Text.isAsciiDigit] at hdigit

/-- What is written for a value begins with a character of its own. -/
private theorem render_eq_cons {value : Json} (hnumbers : value.NumbersReadBack)
    (tail : List Char) : ∃ c rest, value.render tail = c :: rest ∧ isSeparator c = false := by
  cases value with
  | null => exact ⟨_, _, rfl, rfl⟩
  | bool flag => cases flag <;> exact ⟨_, _, rfl, rfl⟩
  | number number =>
      obtain ⟨c, digits, hchars, hc⟩ := exists_cons_of_readNumber hnumbers.readsBack
      refine ⟨c, digits ++ tail, ?_, not_isSeparator_of_numeral hc⟩
      rw [render, hchars, List.cons_append]
  | string text => exact ⟨_, _, rfl, rfl⟩
  | array items => exact ⟨_, _, rfl, rfl⟩
  | object entries => exact ⟨_, _, rfl, rfl⟩

private theorem skipSpace_cons {c : Char} {rest : List Char} (h : isSeparator c = false) :
    skipSpace (c :: rest) = c :: rest := by
  have hspace : isSpace c = false := by
    simp only [isSeparator, Bool.or_eq_false_iff] at h
    exact h.1.1.1
  rw [skipSpace, List.dropWhile_cons_of_neg (by simp [hspace])]

/-- What is written for a value that is no container is read as it stands. -/
private theorem readScalar_render {value : Json} {tail : List Char} (hdepth : value.depth = 0)
    (hnumbers : value.NumbersReadBack) (htail : EndsNumber tail) (level : Nat) :
    readValue level (value.render tail) = ⟨.ofJson value, some tail⟩ := by
  have hscalar : ∀ {c : Char} {rest : List Char}, isSeparator c = false → c ≠ '[' → c ≠ '{' →
      readValue level (c :: rest) = readScalar c rest := by
    intro c rest hc hbracket hbrace
    cases level <;> simp [readValue, skipSpace_cons hc, hbracket, hbrace]
  cases value with
  | null => exact hscalar rfl (by decide) (by decide)
  | bool flag => cases flag <;> exact hscalar rfl (by decide) (by decide)
  | number number =>
      obtain ⟨c, digits, hchars, hc⟩ := exists_cons_of_readNumber hnumbers.readsBack
      have hread := readNumber_append htail hnumbers.readsBack
      rw [hchars, List.cons_append] at hread
      -- a numeral begins with none of the characters that are looked for before
      have hnumeral : ∀ letter ∈ ['[', '{', 'n', 't', 'f', '"'], c ≠ letter := by
        rintro letter hletter rfl
        rcases hc with rfl | hdigit
        · simp at hletter
        · simp only [List.mem_cons, List.not_mem_nil, or_false] at hletter
          rcases hletter with rfl | rfl | rfl | rfl | rfl | rfl <;>
            simp [Text.isAsciiDigit] at hdigit
      rw [render, hchars, List.cons_append, hscalar (not_isSeparator_of_numeral hc)
        (hnumeral _ (by simp)) (hnumeral _ (by simp)), readScalar,
        if_neg (hnumeral _ (by simp)), if_neg (hnumeral _ (by simp)),
        if_neg (hnumeral _ (by simp)), if_neg (hnumeral _ (by simp)), if_pos hc, hread]
      rfl
  | string text =>
      rw [render, quote, List.cons_append, hscalar rfl (by decide) (by decide)]
      simp only [readScalar, Char.reduceEq, if_false, if_true, readString_quote]
      rfl
  | array items => simp [depth] at hdepth
  | object entries => simp [depth] at hdepth

private theorem endsNumber_cons {c : Char} (hc : c ∈ [',', ']', '}']) (rest : List Char) :
    EndsNumber (c :: rest) := by
  intro d hd
  obtain rfl : c = d := by simpa using hd
  simp only [List.mem_cons, List.not_mem_nil, or_false] at hc
  rcases hc with rfl | rfl | rfl <;> decide

private theorem length_le_quote (text : String) (tail : List Char) :
    tail.length ≤ (quote text tail).length := by
  simp [quote]
  omega

mutual

private theorem length_le_render : ∀ (value : Json) (tail : List Char),
    tail.length ≤ (value.render tail).length
  | .null, tail | .bool true, tail | .bool false, tail => by
    simp only [render, List.length_cons]
    omega
  | .number value, tail => by simp [render]
  | .string text, tail => length_le_quote text tail
  | .array items, tail => by
    have := length_le_renderItems true items (']' :: tail)
    simp only [render, List.length_cons] at this ⊢
    omega
  | .object entries, tail => by
    have := length_le_renderEntries true entries ('}' :: tail)
    simp only [render, List.length_cons] at this ⊢
    omega
  termination_by structural value => value

private theorem length_le_renderItems : ∀ (first : Bool) (items : List Json) (tail : List Char),
    tail.length ≤ (renderItems first items tail).length
  | _, [], tail => Nat.le_refl _
  | first, item :: rest, tail => by
    have hrest := length_le_renderItems false rest tail
    have hitem := length_le_render item (renderItems false rest tail)
    cases first <;> simp only [renderItems] <;> simp <;> omega
  termination_by structural _ items => items

private theorem length_le_renderEntries : ∀ (first : Bool) (entries : List (String × Json))
    (tail : List Char), tail.length ≤ (renderEntries first entries tail).length
  | _, [], tail => Nat.le_refl _
  | first, (key, value) :: rest, tail => by
    have hrest := length_le_renderEntries false rest tail
    have hvalue := length_le_render value (renderEntries false rest tail)
    have hkey := length_le_quote key (':' :: value.render (renderEntries false rest tail))
    rw [List.length_cons] at hkey
    cases first <;> simp only [renderEntries] <;> simp <;> omega
  termination_by structural _ entries => entries

end

private theorem length_renderItems (items : List Json) (tail : List Char) :
    items.length + tail.length ≤ (renderItems false items tail).length := by
  induction items with
  | nil => simp [renderItems]
  | cons item rest ih =>
      have := length_le_render item (renderItems false rest tail)
      simp only [renderItems, Bool.false_eq_true, if_false, List.length_cons]
      omega

private theorem length_renderEntries (entries : List (String × Json)) (tail : List Char) :
    entries.length + tail.length ≤ (renderEntries false entries tail).length := by
  induction entries with
  | nil => simp [renderEntries]
  | cons entry rest ih =>
      have hvalue := length_le_render entry.2 (renderEntries false rest tail)
      have hkey := length_le_quote entry.1 (':' :: entry.2.render (renderEntries false rest tail))
      simp only [renderEntries, Bool.false_eq_true, if_false, List.length_cons] at hkey ⊢
      omega

section Containers

variable {read : List Char → Reading Draft}

/-- The items of an array are read if each of them is. -/
private theorem readItems_render {first : Json} {rest : List Json} {fuel : Nat}
    (hfuel : rest.length < fuel) (hnumbers : ∀ item ∈ first :: rest, item.NumbersReadBack)
    (hread : ∀ item ∈ first :: rest, ∀ tail, EndsNumber tail →
      read (item.render tail) = ⟨.ofJson item, some tail⟩) (tail : List Char) :
    readItems read fuel (first.render (renderItems false rest (']' :: tail))) =
      ⟨Draft.ofItems (first :: rest), none, some tail⟩ := by
  induction rest generalizing first fuel with
  | nil =>
      obtain ⟨fuel, rfl⟩ : ∃ n, fuel = n + 1 := ⟨fuel - 1, by omega⟩
      have hfirst := hread first (List.mem_singleton_self _) (']' :: tail)
        (endsNumber_cons (by simp) tail)
      simp only [readItems, renderItems, hfirst]
      rfl
  | cons second rest ih =>
      obtain ⟨fuel, rfl⟩ : ∃ n, fuel = n + 1 := ⟨fuel - 1, by omega⟩
      have hrest := ih (Nat.lt_of_succ_lt_succ hfuel)
        (fun item h => hnumbers item (List.mem_cons_of_mem _ h))
        (fun item h => hread item (List.mem_cons_of_mem _ h))
      obtain ⟨c, text, hsecond, hc⟩ := render_eq_cons
        (hnumbers second (List.mem_cons_of_mem _ (List.mem_cons_self ..)))
        (renderItems false rest (']' :: tail))
      -- no value begins with a bracket, so the comma is not one too many
      have hclose : c ≠ ']' := by rintro rfl; exact Bool.noConfusion hc
      have hfirst := hread first (List.mem_cons_self ..) (',' :: c :: text)
        (endsNumber_cons (by simp) _)
      rw [hsecond] at hrest
      simp only [readItems, renderItems, hsecond, Bool.false_eq_true, if_false, hfirst]
      have hcomma : skipSpace (',' :: c :: text) = ',' :: c :: text := rfl
      simp only [hcomma, skipSpace_cons hc]
      split
      · contradiction
      · rename_i heq
        exact absurd (List.cons.inj heq).1 hclose
      · rw [hrest]
        rfl

/-- The entries of an object are read if each value is. -/
private theorem readEntries_render {key : String} {value : Json} {rest : List (String × Json)}
    {fuel : Nat} (hfuel : rest.length < fuel)
    (hread : ∀ entry ∈ (key, value) :: rest, ∀ tail, EndsNumber tail →
      read (entry.2.render tail) = ⟨.ofJson entry.2, some tail⟩) (tail : List Char) :
    readEntries read fuel (quote key (':' :: value.render (renderEntries false rest
        ('}' :: tail)))) =
      ⟨Draft.ofEntries ((key, value) :: rest), none, some tail⟩ := by
  induction rest generalizing key value fuel with
  | nil =>
      obtain ⟨fuel, rfl⟩ : ∃ n, fuel = n + 1 := ⟨fuel - 1, by omega⟩
      have hvalue := hread (key, value) (List.mem_singleton_self _) ('}' :: tail)
        (endsNumber_cons (by simp) tail)
      have hcolon : ∀ text, readEntryValue read (':' :: text) = read text := fun _ => rfl
      rw [quote, List.cons_append, readEntries]
      simp only [readString_quote, renderEntries, hcolon, hvalue]
      rfl
  | cons second rest ih =>
      obtain ⟨fuel, rfl⟩ : ∃ n, fuel = n + 1 := ⟨fuel - 1, by omega⟩
      obtain ⟨secondKey, secondValue⟩ := second
      have hrest := ih (Nat.lt_of_succ_lt_succ hfuel)
        (fun entry h => hread entry (List.mem_cons_of_mem _ h))
      have hvalue := hread (key, value) (List.mem_cons_self ..)
        (',' :: quote secondKey (':' :: secondValue.render (renderEntries false rest
          ('}' :: tail)))) (endsNumber_cons (by simp) _)
      have hcolon : ∀ text, readEntryValue read (':' :: text) = read text := fun _ => rfl
      rw [quote, List.cons_append, readEntries]
      simp only [readString_quote, renderEntries, Bool.false_eq_true, if_false, hcolon, hvalue]
      have hcomma : ∀ text, skipSpace (',' :: text) = ',' :: text := fun _ => rfl
      have hquote : ∀ tail, skipSpace (quote secondKey tail) = quote secondKey tail :=
        fun _ => rfl
      simp only [hcomma, hquote]
      exact congrArg (Run.push (key, .ofJson value)) hrest

private theorem readArray_render {items : List Json} {tail : List Char}
    (hnumbers : ∀ item ∈ items, item.NumbersReadBack)
    (hread : ∀ item ∈ items, ∀ tail, EndsNumber tail →
      read (item.render tail) = ⟨.ofJson item, some tail⟩) :
    readArray read (renderItems true items (']' :: tail)) =
      ⟨.ofJson (.array items), some tail⟩ := by
  cases items with
  | nil => rfl
  | cons first rest =>
      obtain ⟨c, text, htext, hc⟩ := render_eq_cons
        (hnumbers first (List.mem_cons_self ..)) (renderItems false rest (']' :: tail))
      have hclose : c ≠ ']' := by rintro rfl; exact Bool.noConfusion hc
      -- the reader has a step for each character, and every item takes at least one
      have hfuel : rest.length < (first.render (renderItems false rest (']' :: tail))).length := by
        have hrest := length_renderItems rest (']' :: tail)
        have hfirst := length_le_render first (renderItems false rest (']' :: tail))
        rw [List.length_cons] at hrest
        omega
      have hitems := readItems_render hfuel hnumbers hread tail
      have hstart : renderItems true (first :: rest) (']' :: tail) =
          first.render (renderItems false rest (']' :: tail)) := rfl
      rw [htext] at hitems hstart
      simp only [readArray, hstart, skipSpace_cons hc]
      split
      · contradiction
      · rename_i heq
        exact absurd (List.cons.inj heq).1 hclose
      · rw [hitems]
        rfl

private theorem readObject_render {entries : List (String × Json)} {tail : List Char}
    (hread : ∀ entry ∈ entries, ∀ tail, EndsNumber tail →
      read (entry.2.render tail) = ⟨.ofJson entry.2, some tail⟩) :
    readObject read (renderEntries true entries ('}' :: tail)) =
      ⟨.ofJson (.object entries), some tail⟩ := by
  cases entries with
  | nil => rfl
  | cons entry rest =>
      obtain ⟨key, value⟩ := entry
      have hstart : renderEntries true ((key, value) :: rest) ('}' :: tail) =
          quote key (':' :: value.render (renderEntries false rest ('}' :: tail))) := rfl
      have hfuel : rest.length <
          (quote key (':' :: value.render (renderEntries false rest ('}' :: tail)))).length := by
        have hrest := length_renderEntries rest ('}' :: tail)
        have hvalue := length_le_render value (renderEntries false rest ('}' :: tail))
        have hkey := length_le_quote key
          (':' :: value.render (renderEntries false rest ('}' :: tail)))
        rw [List.length_cons] at hrest hkey
        omega
      have hentries := readEntries_render hfuel hread tail
      obtain ⟨text, htext⟩ : ∃ text, quote key
          (':' :: value.render (renderEntries false rest ('}' :: tail))) = '"' :: text := ⟨_, rfl⟩
      have hobject : readObject read ('"' :: text) =
          let run := readEntries read ('"' :: text).length ('"' :: text)
          ⟨.object run.read run.fault, run.rest⟩ := rfl
      rw [htext] at hentries hstart
      rw [hstart, hobject, hentries]
      rfl

end Containers

/-- What is written for a value is read as it stands, whatever follows. -/
theorem readValue_render {value : Json} {level : Nat} {tail : List Char}
    (hdepth : value.depth ≤ level) (hnumbers : value.NumbersReadBack) (htail : EndsNumber tail) :
    readValue level (value.render tail) = ⟨.ofJson value, some tail⟩ := by
  -- the level bounds the depth, so it carries the induction and not the value
  induction level generalizing value tail with
  | zero => exact readScalar_render (Nat.le_zero.mp hdepth) hnumbers htail 0
  | succ level ih =>
      cases value with
      | array items =>
          refine readArray_render (fun _ => hnumbers.item) fun item hitem tail htail => ?_
          have hle := depth_le_depthItems hitem
          exact ih (by simp only [depth] at hdepth; omega) (hnumbers.item hitem) htail
      | object entries =>
          refine readObject_render fun entry hentry tail htail => ?_
          have hle := depth_le_depthEntries hentry
          exact ih (by simp only [depth] at hdepth; omega) (hnumbers.entry hentry) htail
      | _ => exact readScalar_render rfl hnumbers htail _

/-! ## Drafts without fault are completed -/

mutual

theorem toJson_ofJson : ∀ {value : Json}, value.DistinctKeys →
    (Draft.ofJson value).toJson = .ok value
  | .null, _ | .bool _, _ | .number _, _ | .string _, _ => rfl
  | .array items, h => by
    rw [Draft.ofJson, Draft.toJson, toItems_ofItems fun _ => h.item]
    rfl
  | .object entries, h => by
    rw [Draft.ofJson, Draft.toJson, toEntries_ofEntries (fun _ _ => h.entry) (by simpa using h.nodup)]
    rfl

theorem toItems_ofItems : ∀ {items : List Json}, (∀ item ∈ items, item.DistinctKeys) →
    Draft.toItems (Draft.ofItems items) = .ok items
  | [], _ => rfl
  | item :: rest, h => by
    rw [Draft.ofItems, Draft.toItems, toJson_ofJson (h item (List.mem_cons_self ..)),
      toItems_ofItems fun item hitem => h item (List.mem_cons_of_mem _ hitem)]
    rfl

theorem toEntries_ofEntries : ∀ {entries before : List (String × Json)},
    (∀ key value, (key, value) ∈ entries → value.DistinctKeys) →
    (Entries.keys (before ++ entries)).Nodup →
    Draft.toEntries (Draft.ofEntries entries) before = .ok (before ++ entries)
  | [], _, _, _ => by simp [Draft.ofEntries, Draft.toEntries]
  | (key, value) :: rest, before, h, hnodup => by
    have hnew : key ∉ Entries.keys before := by
      rw [Entries.keys, List.map_append, List.nodup_append] at hnodup
      exact fun hmem => hnodup.2.2 key hmem key (List.mem_cons_self ..) rfl
    have hrest := toEntries_ofEntries (fun k v hmem => h k v (List.mem_cons_of_mem _ hmem))
      (by simpa using hnodup : (Entries.keys (before ++ [(key, value)] ++ rest)).Nodup)
    rw [Draft.ofEntries, Draft.toEntries, toJson_ofJson (h key value (List.mem_cons_self ..))]
    rw [List.append_assoc, ← Entries.insert_of_not_mem hnew] at hrest
    exact hrest

end

/-! ## Whole texts -/

/-- **The text of a value holds that value.** -/
theorem parse_compact {value : Json} (hdepth : value.depth ≤ maxNesting)
    (hnumbers : value.NumbersReadBack) (hkeys : value.DistinctKeys) :
    parse value.compact = .ok value := by
  have hread : readValue maxNesting (value.render []) = ⟨.ofJson value, some []⟩ :=
    readValue_render hdepth hnumbers (by simp [EndsNumber])
  have hdocument : Document.ofText value.compact = ⟨.ofJson value, none⟩ := by
    simp only [Document.ofText, compact, String.toList_ofList, hread]
    rfl
  rw [parse, hdocument, Document.toJson, toJson_ofJson hkeys]
  rfl

/-! ## What a text holds -/

mutual

private theorem distinctKeys_of_toJson : ∀ {draft : Draft} {value : Json},
    draft.toJson = .ok value → value.DistinctKeys
  | .null, value, h => by
    cases h
    simp [DistinctKeys]
  | .bool _, value, h => by
    cases h
    simp [DistinctKeys]
  | .number _, value, h => by
    cases h
    simp [DistinctKeys]
  | .string _, value, h => by
    cases h
    simp [DistinctKeys]
  | .array items fault, value, h => by
    rw [Draft.toJson] at h
    obtain ⟨values, hitems, h⟩ := Outcome.bind_eq_ok_iff.mp h
    cases fault with
    | some fault => cases h
    | none =>
        cases h
        exact distinctKeys_array_iff.mpr (distinctKeys_of_toItems hitems)
  | .object entries fault, value, h => by
    rw [Draft.toJson] at h
    obtain ⟨values, hentries, h⟩ := Outcome.bind_eq_ok_iff.mp h
    cases fault with
    | some fault => cases h
    | none =>
        cases h
        exact distinctKeys_of_toEntries hentries (by simp [Entries.keys])
  | .broken _, value, h => by cases h

private theorem distinctKeys_of_toItems : ∀ {items : List Draft} {values : List Json},
    Draft.toItems items = .ok values → ∀ value ∈ values, value.DistinctKeys
  | [], values, h => by
    cases h
    simp
  | item :: rest, values, h => by
    rw [Draft.toItems] at h
    obtain ⟨first, hfirst, h⟩ := Outcome.bind_eq_ok_iff.mp h
    obtain ⟨others, hothers, h⟩ := Outcome.bind_eq_ok_iff.mp h
    cases h
    exact List.forall_mem_cons.mpr
      ⟨distinctKeys_of_toJson hfirst, distinctKeys_of_toItems hothers⟩

private theorem distinctKeys_of_toEntries : ∀ {entries : List (String × Draft)}
    {before values : List (String × Json)}, Draft.toEntries entries before = .ok values →
    (Json.object before).DistinctKeys → (Json.object values).DistinctKeys
  | [], before, values, h, hbefore => by
    cases h
    exact hbefore
  | (key, draft) :: rest, before, values, h, hbefore => by
    rw [Draft.toEntries] at h
    obtain ⟨value, hvalue, hrest⟩ := Outcome.bind_eq_ok_iff.mp h
    refine distinctKeys_of_toEntries hrest (distinctKeys_object_iff.mpr
      ⟨Entries.nodup_keys_insert hbefore.nodup, fun entry hentry => ?_⟩)
    rcases Entries.mem_insert hentry with rfl | hentry
    · exact distinctKeys_of_toJson hvalue
    · exact hbefore.entry hentry

end

/-- No object in the value of a text has a key twice. -/
theorem distinctKeys_of_parse {text : String} {value : Json} (h : parse text = .ok value) :
    value.DistinctKeys := by
  obtain ⟨draft, hdraft, h⟩ := Outcome.bind_eq_ok_iff.mp h
  cases htrailing : (Document.ofText text).trailing with
  | some fault => simp [htrailing] at h
  | none =>
      obtain rfl : draft = value := by simpa [htrailing] using h
      exact distinctKeys_of_toJson hdraft

end Json

end InfraSynth
