import InfraSynth.Json.Printer
import InfraSynth.Json.Reader

/-!
# Strings and numbers in front of other text

What is written for a string or a number reads back whatever follows it, as long
as that cannot be taken for a part of it.  A string ends at its quote, so
anything may follow.  A number is ended by what follows, which must not go on
with a digit, a point or an exponent: `EndsNumber`.

## Strategy

For a string the reader is followed character by character; `readChars_escaped`
is the step.  For a number the claim is not about what is written: every reader
of a part of a numeral gives the same result if text is added that cannot belong
to the numeral, and the lemmas follow the readers from the exponent outwards.
-/

namespace InfraSynth.Json

/-! ## Strings -/

private theorem le_byteLength (text : List Char) : text.length ≤ byteLength text := by
  have hfold : ∀ total, total + text.length ≤
      text.foldl (fun total c => total + c.utf8Size) total := by
    induction text with
    | nil => simp
    | cons c rest ih =>
        intro total
        have hsize : 1 ≤ c.utf8Size := c.utf8Size_pos
        have := ih (total + c.utf8Size)
        rw [List.foldl_cons, List.length_cons]
        omega
  simpa [byteLength] using hfold 0

private theorem inBase_control : ∀ n < 32,
    Text.inBase? 16 ['0', '0', Nat.digitChar (n / 16), Nat.digitChar (n % 16)] = some n := by
  decide

/-- The escape of a control by its number. -/
private theorem readCodePoint_control {n : Nat} (hn : n < 32) (tail : List Char) :
    readCodePoint ('0' :: '0' :: Nat.digitChar (n / 16) :: Nat.digitChar (n % 16) :: tail) =
      .ok (Char.ofNat n, tail) := by
  have hlength := le_byteLength
    ('0' :: '0' :: Nat.digitChar (n / 16) :: Nat.digitChar (n % 16) :: tail)
  have hunit : readUnit ('0' :: '0' :: Nat.digitChar (n / 16) :: Nat.digitChar (n % 16) :: tail) =
      .ok (n, tail) := by
    rw [readUnit, if_neg (by simp only [List.length_cons] at hlength; omega)]
    simp only [List.take_succ_cons, List.take_zero, inBase_control n hn]
    rfl
  -- a control is no half of a pair of code units
  have htrailing : ¬(0xDC00 ≤ n ∧ n ≤ 0xDFFF) := by omega
  have hleading : ¬(0xD800 ≤ n ∧ n ≤ 0xDBFF) := by omega
  simp only [readCodePoint, hunit, bind, Except.bind, if_neg htrailing, if_neg hleading]

private theorem readChars_escape {c : Char} {text rest : List Char}
    (h : readEscape text = .ok (c, rest)) (fuel : Nat) :
    readChars (fuel + 1) ('\\' :: text) =
      (readChars fuel rest).map fun (chars, rest) => (c :: chars, rest) := by
  simp only [readChars, Char.reduceEq, if_false, if_true, h, bind, Except.bind]
  cases readChars fuel rest <;> rfl

/-- One character is read from what is written for it. -/
theorem readChars_escaped (c : Char) (fuel : Nat) (tail : List Char) :
    readChars (fuel + 1) (escaped c ++ tail) =
      (readChars fuel tail).map fun (chars, rest) => (c :: chars, rest) := by
  unfold escaped
  -- seven characters have an escape of two letters
  split
  · subst c; exact readChars_escape rfl fuel
  split
  · subst c; exact readChars_escape rfl fuel
  split
  · subst c; exact readChars_escape rfl fuel
  split
  · subst c; exact readChars_escape rfl fuel
  split
  · subst c; exact readChars_escape rfl fuel
  split
  · subst c; exact readChars_escape rfl fuel
  split
  · subst c; exact readChars_escape rfl fuel
  split
  · -- the other control characters are written by their numbers
    rename_i hcontrol
    have hpoint := readCodePoint_control hcontrol tail
    rw [Char.ofNat_toNat] at hpoint
    have hescape : readEscape ('u' :: '0' :: '0' :: Nat.digitChar (c.toNat / 16) ::
        Nat.digitChar (c.toNat % 16) :: tail) = .ok (c, tail) := hpoint
    exact readChars_escape hescape fuel
  · -- all else stands for itself
    rename_i hquote hbackslash _ _ _ _ _ hcontrol
    simp only [List.singleton_append, readChars, if_neg hquote, if_neg hbackslash,
      if_neg hcontrol, bind, Except.bind]
    cases readChars fuel tail <;> rfl

theorem escaped_ne_nil (c : Char) : escaped c ≠ [] := by
  unfold escaped
  repeat' split
  all_goals simp

theorem length_le_flatMap_escaped (chars : List Char) :
    chars.length ≤ (chars.flatMap escaped).length := by
  induction chars with
  | nil => simp
  | cons c rest ih =>
      have := List.length_pos_iff.mpr (escaped_ne_nil c)
      rw [List.flatMap_cons, List.length_append, List.length_cons]
      omega

private theorem readChars_flatMap_escaped {chars tail : List Char} {fuel : Nat}
    (h : chars.length < fuel) :
    readChars fuel (chars.flatMap escaped ++ '"' :: tail) = .ok (chars, tail) := by
  induction chars generalizing fuel with
  | nil =>
      obtain ⟨fuel, rfl⟩ := Nat.exists_eq_add_of_lt h
      simp [readChars]
  | cons c rest ih =>
      obtain ⟨fuel, rfl⟩ : ∃ n, fuel = n + 1 := ⟨fuel - 1, by simp at h; omega⟩
      rw [List.flatMap_cons, List.append_assoc, readChars_escaped,
        ih (by simpa using h)]
      rfl

/-- A string is read back up to its closing quote, whatever follows. -/
theorem readString_quote (text : String) (tail : List Char) :
    readString (text.toList.flatMap escaped ++ '"' :: tail) = .ok (text, tail) := by
  have hfuel : text.toList.length < (text.toList.flatMap escaped ++ '"' :: tail).length + 1 := by
    have := length_le_flatMap_escaped text.toList
    rw [List.length_append]
    omega
  rw [readString, readChars_flatMap_escaped hfuel]
  simp [bind, Except.bind, pure, Except.pure]

/-! ## Numbers -/

/-- A numeral in front of this text goes no further. -/
def EndsNumber (tail : List Char) : Prop :=
  ∀ c ∈ tail.head?, ¬Text.isAsciiDigit c = true ∧ c ≠ '.' ∧ c ≠ 'e' ∧ c ≠ 'E'

section Numeral

variable {negative : Bool} {bound value significand : Nat} {exponent : Int} {number : Number}
  {text rest tail : List Char}

private theorem takeWhile_append (h : EndsNumber tail) (text : List Char) :
    (text ++ tail).takeWhile Text.isAsciiDigit = text.takeWhile Text.isAsciiDigit ∧
      (text ++ tail).dropWhile Text.isAsciiDigit =
        text.dropWhile Text.isAsciiDigit ++ tail := by
  induction text with
  | nil =>
      cases tail with
      | nil => simp
      | cons c rest =>
          have hc := (h c rfl).1
          simp [hc]
  | cons c rest ih =>
      by_cases hc : Text.isAsciiDigit c = true
      · simp [hc, ih]
      · simp [hc]

private theorem takeDigits_append (h : EndsNumber tail) :
    takeDigits bound value (text ++ tail) =
      ((takeDigits bound value text).1, (takeDigits bound value text).2 ++ tail) := by
  obtain ⟨htake, hdrop⟩ := takeWhile_append h text
  simp only [takeDigits, htake, hdrop]

private theorem ofParts_append
    (hread : ofParts negative significand exponent text = .ok (number, rest)) :
    ofParts negative significand exponent (text ++ tail) = .ok (number, rest ++ tail) := by
  unfold ofParts at hread ⊢
  cases hscale : scale significand exponent with
  | none => simp [hscale] at hread
  | some x =>
      simp only [hscale, Except.ok.injEq, Prod.mk.injEq] at hread ⊢
      obtain ⟨rfl, rfl⟩ := hread
      exact ⟨rfl, rfl⟩

private theorem readUnsignedExponent_append (h : EndsNumber tail) {below : Bool}
    (hread : readUnsignedExponent negative below significand exponent text = .ok (number, rest)) :
    readUnsignedExponent negative below significand exponent (text ++ tail) =
      .ok (number, rest ++ tail) := by
  cases text with
  | nil => simp [readUnsignedExponent] at hread
  | cons c digits =>
      simp only [readUnsignedExponent, List.cons_append, takeDigits_append h] at hread ⊢
      split at hread
      · contradiction
      rename_i hdigit
      rw [if_neg hdigit]
      split at hread
      · rename_i hdropped
        rw [if_pos hdropped]
        exact ofParts_append hread
      rename_i hdropped
      rw [if_neg hdropped]
      split at hread
      · contradiction
      rename_i hsmall
      rw [if_neg hsmall]
      simp only [Except.ok.injEq, Prod.mk.injEq] at hread ⊢
      obtain ⟨rfl, rfl⟩ := hread
      exact ⟨rfl, rfl⟩

private theorem takeSign_append {c : Char} :
    takeSign (c :: text ++ tail) =
      ((takeSign (c :: text)).1, (takeSign (c :: text)).2 ++ tail) := by
  by_cases hplus : c = '+'
  · subst c; rfl
  by_cases hminus : c = '-'
  · subst c; rfl
  simp [takeSign, hplus, hminus]

private theorem readExponent_append (h : EndsNumber tail)
    (hread : readExponent negative significand exponent text = .ok (number, rest)) :
    readExponent negative significand exponent (text ++ tail) = .ok (number, rest ++ tail) := by
  cases text with
  | nil => simp [readExponent, takeSign, readUnsignedExponent] at hread
  | cons c digits =>
      rw [readExponent, takeSign_append]
      exact readUnsignedExponent_append h hread

private theorem readScale_eq_of_endsNumber (h : EndsNumber tail) :
    readScale negative significand exponent tail = ofParts negative significand exponent tail := by
  cases tail with
  | nil => rfl
  | cons c rest =>
      obtain ⟨-, -, he, hE⟩ := h c rfl
      simp [readScale, he, hE]

private theorem readScale_append (h : EndsNumber tail)
    (hread : readScale negative significand exponent text = .ok (number, rest)) :
    readScale negative significand exponent (text ++ tail) = .ok (number, rest ++ tail) := by
  unfold readScale at hread
  split at hread
  · exact readExponent_append h hread
  · exact readExponent_append h hread
  · rename_i he hE
    cases text with
    | nil =>
        rw [List.nil_append, readScale_eq_of_endsNumber h]
        exact ofParts_append hread
    | cons c scale =>
        have hc : c ≠ 'e' := by rintro rfl; exact he scale rfl
        have hC : c ≠ 'E' := by rintro rfl; exact hE scale rfl
        -- neither before nor after the text is added is there an exponent
        have hplain : readScale negative significand exponent (c :: scale ++ tail) =
            ofParts negative significand exponent (c :: scale ++ tail) := by
          simp [readScale, hc, hC]
        rw [hplain]
        exact ofParts_append hread

private theorem readFraction_append (h : EndsNumber tail)
    (hread : readFraction negative significand exponent text = .ok (number, rest)) :
    readFraction negative significand exponent (text ++ tail) = .ok (number, rest ++ tail) := by
  simp only [readFraction, takeDigits_append h] at hread ⊢
  split at hread
  · split at hread <;> contradiction
  · rename_i htaken
    rw [if_neg htaken]
    exact readScale_append h hread

private theorem readRemainder_plain {digits : Digits} {c : Char} (hc : c ≠ '.') :
    readRemainder negative digits (c :: text) =
      if digits.dropped = 0 ∧ c ≠ 'e' ∧ c ≠ 'E' then
        .ok (integer negative digits.value, c :: text)
      else readScale negative digits.value digits.dropped (c :: text) := by
  simp [readRemainder, hc]

private theorem readRemainder_eq_of_endsNumber (h : EndsNumber tail) {digits : Digits} :
    readRemainder negative digits tail =
      if digits.dropped = 0 then .ok (integer negative digits.value, tail)
      else readScale negative digits.value digits.dropped tail := by
  cases tail with
  | nil => simp [readRemainder]
  | cons c rest =>
      obtain ⟨-, hpoint, he, hE⟩ := h c rfl
      simp [readRemainder_plain hpoint, he, hE]

private theorem readRemainder_append (h : EndsNumber tail) {digits : Digits}
    (hread : readRemainder negative digits text = .ok (number, rest)) :
    readRemainder negative digits (text ++ tail) = .ok (number, rest ++ tail) := by
  cases text with
  | nil =>
      have hnil : EndsNumber [] := by simp [EndsNumber]
      rw [readRemainder_eq_of_endsNumber hnil] at hread
      rw [List.nil_append, readRemainder_eq_of_endsNumber h]
      split at hread
      · rename_i hdropped
        simp only [Except.ok.injEq, Prod.mk.injEq] at hread
        obtain ⟨rfl, rfl⟩ := hread
        rw [if_pos hdropped, List.nil_append]
      · rename_i hdropped
        rw [if_neg hdropped]
        exact readScale_append h hread
  | cons c scale =>
      by_cases hpoint : c = '.'
      · subst c
        exact readFraction_append h hread
      rw [readRemainder_plain hpoint] at hread
      rw [List.cons_append, readRemainder_plain hpoint]
      split at hread
      · rename_i hinteger
        simp only [Except.ok.injEq, Prod.mk.injEq] at hread
        obtain ⟨rfl, rfl⟩ := hread
        rw [if_pos hinteger, List.cons_append]
      · rename_i hscaled
        rw [if_neg hscaled]
        exact readScale_append h hread

private theorem readMagnitude_append (h : EndsNumber tail)
    (hread : readMagnitude negative text = .ok (number, rest)) :
    readMagnitude negative (text ++ tail) = .ok (number, rest ++ tail) := by
  cases text with
  | nil => simp [readMagnitude] at hread
  | cons c digits =>
      simp only [readMagnitude, List.cons_append, takeDigits_append h] at hread ⊢
      split at hread
      · contradiction
      rename_i hdigit
      rw [if_neg hdigit]
      split at hread
      · contradiction
      rename_i hzero
      -- what follows begins with no digit, so it makes no zero a leading one
      have hzero' : ¬(c = '0' ∧ (digits ++ tail).head?.any Text.isAsciiDigit = true) := by
        cases digits with
        | nil =>
            rintro ⟨-, hany⟩
            obtain ⟨next, hnext, hdigit⟩ := (Option.any_eq_true ..).mp hany
            exact (h next hnext).1 hdigit
        | cons next digits => exact hzero
      rw [if_neg hzero']
      exact readRemainder_append h hread

private theorem readNumber_plain {c : Char} (hminus : c ≠ '-') :
    readNumber (c :: text) = readMagnitude false (c :: text) := by
  simp [readNumber, hminus]

/-- A number is read the same if text follows that ends it. -/
theorem readNumber_append (h : EndsNumber tail) (hread : readNumber text = .ok (number, rest)) :
    readNumber (text ++ tail) = .ok (number, rest ++ tail) := by
  cases text with
  | nil => simp [readNumber, readMagnitude] at hread
  | cons c digits =>
      by_cases hminus : c = '-'
      · subst c
        exact readMagnitude_append h hread
      · rw [readNumber_plain hminus] at hread
        rw [List.cons_append, readNumber_plain hminus]
        exact readMagnitude_append h hread

/-- A numeral starts with its sign or a digit. -/
theorem exists_cons_of_readNumber (hread : readNumber text = .ok (number, rest)) :
    ∃ c digits, text = c :: digits ∧ (c = '-' ∨ Text.isAsciiDigit c = true) := by
  cases text with
  | nil => simp [readNumber, readMagnitude] at hread
  | cons c digits =>
      refine ⟨c, digits, rfl, ?_⟩
      by_cases hminus : c = '-'
      · exact Or.inl hminus
      · rw [readNumber_plain hminus, readMagnitude] at hread
        split at hread
        · contradiction
        · rename_i hdigit
          exact Or.inr (by simpa using hdigit)

end Numeral

end InfraSynth.Json
