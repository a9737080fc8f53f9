import InfraSynth.Text.Affix
import InfraSynth.Text.Numeral
import Mathlib.Data.List.Induction
import Mathlib.Data.List.TakeWhile

/-!
# Texts taken apart, and numerals

`splitAt?_eq_some_iff` says what is before and after the first occurrence of a
character, `contains_append` that a word does not go across a character that it has
not, and `natural?_eq_some_iff` what a numeral may look like.  A numeral
without superfluous zeros is determined by its value,
`toDigits_digitsValue`; with a sign or with zeros in front there are more texts
for the same number, and `natural?_eq_some_iff_zeros` says that these are all.
-/

namespace InfraSynth.Text

variable {text : String} {digits : List Char} {bound n : Nat}

/-- A text in an interpolated one stands for itself. -/
theorem toString_eq (text : String) : toString text = text :=
  rfl

/-- The texts are those around the first occurrence. -/
theorem splitAt?_eq_some_iff {separator : Char} {before after : String} :
    splitAt? separator text = some (before, after) ↔
      text.toList = before.toList ++ separator :: after.toList ∧ separator ∉ before.toList := by
  have hparts := List.takeWhile_append_dropWhile (p := (· ≠ separator)) (l := text.toList)
  unfold splitAt?
  constructor
  · intro h
    split at h
    · contradiction
    · rename_i c rest hdrop
      obtain ⟨rfl, rfl⟩ : String.ofList (text.toList.takeWhile (· ≠ separator)) = before ∧
          String.ofList rest = after := by simpa using h
      -- what follows the characters before the first occurrence begins with it
      have hc : c = separator := by
        have hhead := List.head?_dropWhile_not (· ≠ separator) text.toList
        rw [hdrop] at hhead
        simpa using hhead
      rw [hdrop, hc] at hparts
      refine ⟨by simpa using hparts.symm, fun hmem => ?_⟩
      rw [String.toList_ofList] at hmem
      simpa using List.mem_takeWhile_imp hmem
  · rintro ⟨htext, hnot⟩
    have hall : ∀ c ∈ before.toList, decide (c ≠ separator) = true := by
      intro c hc
      exact decide_eq_true fun heq => hnot (heq ▸ hc)
    rw [htext, List.dropWhile_append_of_pos hall, List.takeWhile_append_of_pos hall]
    simp

/-- The parts around a separator are told by the whole, if the first one has none. -/
theorem append_cons_inj {separator : Char} {before before' after after' : List Char}
    (h : separator ∉ before) (h' : separator ∉ before')
    (heq : before ++ separator :: after = before' ++ separator :: after') :
    before = before' ∧ after = after' := by
  have hsplit : splitAt? separator (String.ofList (before ++ separator :: after)) =
      some (String.ofList before, String.ofList after) :=
    splitAt?_eq_some_iff.mpr (by simpa using h)
  have hsplit' : splitAt? separator (String.ofList (before' ++ separator :: after')) =
      some (String.ofList before', String.ofList after') :=
    splitAt?_eq_some_iff.mpr (by simpa using h')
  rw [heq, hsplit'] at hsplit
  obtain ⟨hbefore, hafter⟩ := Prod.mk.inj (Option.some.inj hsplit)
  exact ⟨(String.ofList_inj.mp hbefore).symm, (String.ofList_inj.mp hafter).symm⟩

/-- A text is split in one way only into parts of which the first has a given number of
separators. -/
theorem append_cons_inj_of_count {separator : Char} {front front' rest rest' : List Char}
    (h : front ++ separator :: rest = front' ++ separator :: rest')
    (hcount : front.count separator = front'.count separator) : front = front' ∧ rest = rest' := by
  induction front generalizing front' with
  | nil =>
      cases front' with
      | nil => exact ⟨rfl, (List.cons.inj h).2⟩
      | cons c more =>
          obtain ⟨rfl, -⟩ := List.cons.inj h
          simp at hcount
  | cons c more ih =>
      cases front' with
      | nil =>
          obtain ⟨rfl, -⟩ := List.cons.inj h
          simp at hcount
      | cons d others =>
          obtain ⟨rfl, hmore⟩ := List.cons.inj h
          obtain ⟨rfl, hrest⟩ := ih hmore (by simpa [List.count_cons] using hcount)
          exact ⟨rfl, hrest⟩

/-! ## Words in a text -/

section Words

variable {part after : List Char} {c : Char}

theorem isPrefixOf_append_cons (before : List Char) (h : c ∉ part) :
    part.isPrefixOf (before ++ c :: after) = part.isPrefixOf before := by
  induction part generalizing before with
  | nil => rw [List.isPrefixOf_nil_left, List.isPrefixOf_nil_left]
  | cons first rest ih =>
      obtain ⟨hfirst, hrest⟩ := List.ne_and_not_mem_of_not_mem_cons h
      cases before with
      | nil =>
          have hne : (first == c) = false := beq_false_of_ne hfirst.symm
          rw [List.nil_append, List.isPrefixOf_cons_cons, hne]
          rfl
      | cons b before =>
          rw [List.cons_append, List.isPrefixOf_cons_cons, List.isPrefixOf_cons_cons, ih _ hrest]

theorem holds_append_cons (before : List Char) (h : c ∉ part) :
    holds part (before ++ c :: after) = (holds part before || holds part after) := by
  induction before with
  | nil =>
      have hstart : part.isPrefixOf (c :: after) = part.isPrefixOf [] :=
        isPrefixOf_append_cons [] h
      rw [List.nil_append, holds, holds, hstart]
      cases part <;> rfl
  | cons b rest ih =>
      have hstart : part.isPrefixOf (b :: (rest ++ c :: after)) = part.isPrefixOf (b :: rest) :=
        isPrefixOf_append_cons (b :: rest) h
      rw [List.cons_append, holds, holds, hstart, ih, Bool.or_assoc]

/-- A word that has not the character between two texts is in one of them. -/
theorem contains_append {first second word : String} (h : c ∉ word.toList) :
    contains (first ++ String.singleton c ++ second) word =
      (contains first word || contains second word) := by
  have htext : (first ++ String.singleton c ++ second).toList =
      first.toList ++ c :: second.toList := by
    simp
  rw [contains, htext, holds_append_cons _ h]
  rfl

theorem lowerAscii_append (first second : String) :
    lowerAscii (first ++ second) = lowerAscii first ++ lowerAscii second := by
  simp [lowerAscii]

end Words

/-! ## Numerals -/

theorem isAsciiDigit_iff {c : Char} : isAsciiDigit c = true ↔ 48 ≤ c.toNat ∧ c.toNat ≤ 57 := by
  simp [isAsciiDigit, Char.le_def, UInt32.le_iff_toNat_le]

theorem digits?_eq_some_iff : digits? bound digits = some n ↔
    digits ≠ [] ∧ (∀ c ∈ digits, isAsciiDigit c = true) ∧ digitsValue digits = n ∧ n ≤ bound := by
  rw [digits?, Option.ite_none_right_eq_some, List.all_eq_true, Option.some.injEq]
  constructor
  · rintro ⟨⟨hne, hdigits, hle⟩, rfl⟩
    exact ⟨hne, hdigits, rfl, hle⟩
  · rintro ⟨hne, hdigits, rfl, hle⟩
    exact ⟨⟨hne, hdigits, hle⟩, rfl⟩

/-- A numeral has digits, and a plus sign may stand in front of them. -/
theorem natural?_eq_some_iff : natural? bound text = some n ↔
    ∃ digits, digits? bound digits = some n ∧
      (text.toList = digits ∨ text.toList = '+' :: digits) := by
  unfold natural?
  split
  · rename_i rest htext
    constructor
    · intro h
      exact ⟨rest, h, Or.inr htext⟩
    · rintro ⟨digits, hdigits, heq | heq⟩
      · -- a plus sign is no digit
        obtain ⟨-, hall, -⟩ := digits?_eq_some_iff.mp hdigits
        rw [← heq, htext] at hall
        exact absurd (hall '+' (List.mem_cons_self ..)) (by decide)
      · rw [htext] at heq
        rwa [(List.cons.inj heq).2]
  · rename_i hplus
    constructor
    · intro h
      exact ⟨text.toList, h, Or.inl rfl⟩
    · rintro ⟨digits, hdigits, heq | heq⟩
      · rwa [heq]
      · exact absurd heq (hplus digits)

theorem digitsValue_append_singleton (digits : List Char) (c : Char) :
    digitsValue (digits ++ [c]) = 10 * digitsValue digits + digitValue c := by
  simp [digitsValue]

theorem digitChar_digitValue {c : Char} (h : isAsciiDigit c = true) :
    digitValue c < 10 ∧ Nat.digitChar (digitValue c) = c := by
  obtain ⟨hlow, hhigh⟩ := isAsciiDigit_iff.mp h
  have hzero : '0'.toNat = 48 := rfl
  have hlt : digitValue c < 10 := by
    unfold digitValue
    omega
  refine ⟨hlt, Char.toNat_inj.mp ?_⟩
  rw [Nat.toNat_digitChar_of_lt_ten hlt]
  unfold digitValue
  omega

/-- Digits without superfluous zeros in front are those of their value. -/
theorem toDigits_digitsValue (hne : digits ≠ []) (hdigits : ∀ c ∈ digits, isAsciiDigit c = true)
    (hzero : digits.head? = some '0' → digits.length = 1) :
    Nat.toDigits 10 (digitsValue digits) = digits := by
  induction digits using List.reverseRecOn with
  | nil => contradiction
  | append_singleton front c ih =>
      obtain ⟨hlt, hchar⟩ := digitChar_digitValue (hdigits c (by simp))
      rw [digitsValue_append_singleton]
      cases front with
      | nil =>
          have hvalue : 10 * digitsValue [] + digitValue c = digitValue c := Nat.zero_add _
          rw [hvalue, Nat.toDigits_of_lt_base hlt, hchar, List.nil_append]
      | cons first rest =>
          -- with more digits to come the first one is not zero, so the value is positive
          have hfirst : first ≠ '0' := by
            rintro rfl
            simpa using hzero rfl
          have hfront : Nat.toDigits 10 (digitsValue (first :: rest)) = first :: rest := by
            refine ih (List.cons_ne_nil _ _) (fun d hd => hdigits d ?_) fun h => ?_
            · exact List.mem_append_left _ hd
            · exact absurd (Option.some.inj h) hfirst
          have hpos : 0 < digitsValue (first :: rest) := by
            refine Nat.pos_of_ne_zero fun hvalue => ?_
            rw [hvalue, Nat.toDigits_zero] at hfront
            exact hfirst (List.cons.inj hfront).1.symm
          rw [← Nat.toDigits_append_toDigits (by decide) hpos hlt, hfront,
            Nat.toDigits_of_lt_base hlt, hchar]

theorem isAsciiDigit_of_mem_toDigits {c : Char} (h : c ∈ Nat.toDigits 10 n) :
    isAsciiDigit c = true := by
  have hdigit : c.isDigit = true := Nat.isDigit_of_mem_toDigits (by decide) (by decide) h
  rw [isAsciiDigit_iff]
  simpa [Char.isDigit, UInt32.le_iff_toNat_le] using hdigit

theorem digitsValue_toDigits (n : Nat) : digitsValue (Nat.toDigits 10 n) = n :=
  Nat.ofDigitChars_ten_toDigits

/-- The digits of a number begin with a zero only if that is all of them. -/
theorem length_toDigits_of_head? (h : (Nat.toDigits 10 n).head? = some '0') :
    (Nat.toDigits 10 n).length = 1 := by
  have hzero : n = 0 := by
    -- the first digit is that of the number without its last one
    induction n using Nat.strongRecOn with
    | ind n ih =>
        rcases Nat.lt_or_ge n 10 with hlt | hge
        · rw [Nat.toDigits_of_lt_base hlt] at h
          exact Nat.digitChar_eq_zero.mp (Option.some.inj h)
        · have hfront : (Nat.toDigits 10 (n / 10)).head? = some '0' := by
            rw [Nat.toDigits_of_base_le (by decide) hge] at h
            cases hdigits : Nat.toDigits 10 (n / 10) with
            | nil => exact absurd hdigits Nat.toDigits_ne_nil
            | cons first rest =>
                rw [hdigits] at h
                exact h
          have hrest : n / 10 = 0 := ih (n / 10) (by omega) hfront
          omega
  rw [hzero, Nat.toDigits_zero, List.length_singleton]

theorem digitsValue_zeros_append (zeros : Nat) (digits : List Char) :
    digitsValue (List.replicate zeros '0' ++ digits) = digitsValue digits := by
  show Nat.ofDigitChars 10 (List.replicate zeros '0' ++ digits) 0 = Nat.ofDigitChars 10 digits 0
  rw [Nat.ofDigitChars_append, Nat.ofDigitChars_replicate_zero, Nat.mul_zero]

/-- Digits are those of their value, with zeros in front. -/
theorem exists_zeros_append (hne : digits ≠ []) (hdigits : ∀ c ∈ digits, isAsciiDigit c = true) :
    ∃ zeros, digits = List.replicate zeros '0' ++ Nat.toDigits 10 (digitsValue digits) := by
  induction digits with
  | nil => contradiction
  | cons first rest ih =>
      by_cases hfirst : first = '0' ∧ rest ≠ []
      · obtain ⟨rfl, hrest⟩ := hfirst
        obtain ⟨zeros, hzeros⟩ := ih hrest fun c hc => hdigits c (List.mem_cons_of_mem _ hc)
        have hvalue : digitsValue ('0' :: rest) = digitsValue rest :=
          digitsValue_zeros_append 1 rest
        refine ⟨zeros + 1, ?_⟩
        rw [hvalue, List.replicate_succ, List.cons_append, ← hzeros]
      · refine ⟨0, (toDigits_digitsValue hne hdigits fun h => ?_).symm⟩
        have hrest : rest = [] := by
          by_contra hrest
          exact hfirst ⟨Option.some.inj h, hrest⟩
        rw [hrest, List.length_singleton]

/-- A run of digits with a value is the digits of that value, with zeros in front. -/
theorem digits?_eq_some_iff_zeros : digits? bound digits = some n ↔
    n ≤ bound ∧ ∃ zeros, digits = List.replicate zeros '0' ++ Nat.toDigits 10 n := by
  rw [digits?_eq_some_iff]
  constructor
  · rintro ⟨hne, hdigits, rfl, hle⟩
    exact ⟨hle, exists_zeros_append hne hdigits⟩
  · rintro ⟨hle, zeros, rfl⟩
    refine ⟨List.append_ne_nil_of_right_ne_nil _ Nat.toDigits_ne_nil, fun c hc => ?_, ?_, hle⟩
    · rcases List.mem_append.mp hc with hzero | hdigit
      · rw [List.eq_of_mem_replicate hzero]
        rfl
      · exact isAsciiDigit_of_mem_toDigits hdigit
    · rw [digitsValue_zeros_append, digitsValue_toDigits]

/-- A numeral for a number is its digits, with zeros in front and maybe a plus sign
before them. -/
theorem natural?_eq_some_iff_zeros : natural? bound text = some n ↔
    n ≤ bound ∧ ∃ zeros, text.toList = List.replicate zeros '0' ++ Nat.toDigits 10 n ∨
      text.toList = '+' :: (List.replicate zeros '0' ++ Nat.toDigits 10 n) := by
  simp only [natural?_eq_some_iff, digits?_eq_some_iff_zeros]
  constructor
  · rintro ⟨digits, ⟨hle, zeros, rfl⟩, htext⟩
    exact ⟨hle, zeros, htext⟩
  · rintro ⟨hle, zeros, htext⟩
    exact ⟨_, ⟨hle, zeros, rfl⟩, htext⟩

theorem natural?_toString (h : n ≤ bound) : natural? bound (toString n) = some n :=
  natural?_eq_some_iff_zeros.mpr ⟨h, 0, Or.inl Nat.toList_repr⟩

/-- In a text for zero a plus sign may stand in front of the zeros. -/
theorem natural?_eq_some_zero_iff : natural? bound text = some 0 ↔
    ∃ more, text.toList = List.replicate (more + 1) '0' ∨
      text.toList = '+' :: List.replicate (more + 1) '0' := by
  rw [natural?_eq_some_iff_zeros, and_iff_right (Nat.zero_le bound), Nat.toDigits_zero]
  simp only [List.replicate_succ']

end InfraSynth.Text
