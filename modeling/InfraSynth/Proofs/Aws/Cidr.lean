import InfraSynth.Aws.Cidr
import InfraSynth.Proofs.Check
import InfraSynth.Proofs.Text

/-!
# Which texts are IPv4 blocks

A text is read as a block if it is the address in its usual form, a slash, and a
numeral for the number of bits that are common, `Cidr.eq_of_parse?`.  The address
has one form only, while the numeral may have a sign and zeros in front.  The
block of all addresses, which has no bits in common, is where that matters:
`numeral_everything_iff` lists the numerals that it may have.
-/

namespace InfraSynth.Aws

namespace Cidr

variable {text : String} {cidr : Cidr}

/-! ## Addresses -/

theorem toNat_shiftLeft_octet (octet : UInt8) {bits : UInt32} (h : bits.toNat ≤ 24) :
    (octet.toUInt32 <<< bits).toNat = octet.toNat <<< bits.toNat := by
  have hbits : bits.toNat % 32 = bits.toNat := Nat.mod_eq_of_lt (by omega)
  have hoctet : octet.toNat ≤ 255 := Nat.le_of_lt_succ octet.toNat_lt
  have hpow : 2 ^ bits.toNat ≤ 2 ^ 24 := Nat.pow_le_pow_right (by decide) h
  have hlt : octet.toNat <<< bits.toNat < 2 ^ 32 :=
    calc octet.toNat <<< bits.toNat
        = octet.toNat * 2 ^ bits.toNat := Nat.shiftLeft_eq _ _
      _ ≤ 255 * 2 ^ 24 := Nat.mul_le_mul hoctet hpow
      _ < 2 ^ 32 := by decide
  rw [UInt32.toNat_shiftLeft, UInt8.toNat_toUInt32, hbits]
  exact Nat.mod_eq_of_lt hlt

theorem toNat_ofOctets (a b c d : UInt8) : (ofOctets a b c d).toNat =
    a.toNat * 16777216 + b.toNat * 65536 + c.toNat * 256 + d.toNat := by
  have hb := b.toNat_lt
  have hc := c.toNat_lt
  have hd := d.toNat_lt
  -- every octet is shifted to bits that the ones after it leave free
  have hlow : c.toNat <<< 8 ||| d.toNat = c.toNat <<< 8 + d.toNat :=
    (Nat.shiftLeft_add_eq_or_of_lt hd _).symm
  have hmiddle : b.toNat <<< 16 ||| (c.toNat <<< 8 + d.toNat) =
      b.toNat <<< 16 + (c.toNat <<< 8 + d.toNat) := by
    refine (Nat.shiftLeft_add_eq_or_of_lt ?_ _).symm
    rw [Nat.shiftLeft_eq]
    omega
  have hhigh : a.toNat <<< 24 ||| (b.toNat <<< 16 + (c.toNat <<< 8 + d.toNat)) =
      a.toNat <<< 24 + (b.toNat <<< 16 + (c.toNat <<< 8 + d.toNat)) := by
    refine (Nat.shiftLeft_add_eq_or_of_lt ?_ _).symm
    rw [Nat.shiftLeft_eq, Nat.shiftLeft_eq]
    omega
  calc (ofOctets a b c d).toNat
      = a.toNat <<< 24 ||| (b.toNat <<< 16 ||| (c.toNat <<< 8 ||| d.toNat)) := by
        rw [ofOctets, UInt32.toNat_or, UInt32.toNat_or, UInt32.toNat_or,
          toNat_shiftLeft_octet _ (by decide), toNat_shiftLeft_octet _ (by decide),
          toNat_shiftLeft_octet _ (by decide), UInt8.toNat_toUInt32, Nat.or_assoc, Nat.or_assoc]
        rfl
    _ = a.toNat <<< 24 + (b.toNat <<< 16 + (c.toNat <<< 8 + d.toNat)) := by
        rw [hlow, hmiddle, hhigh]
    _ = a.toNat * 16777216 + b.toNat * 65536 + c.toNat * 256 + d.toNat := by
        rw [Nat.shiftLeft_eq, Nat.shiftLeft_eq, Nat.shiftLeft_eq]
        omega

theorem octetAt_eq (address : UInt32) {bits : UInt32} (h : bits.toNat ≤ 24) :
    octetAt address bits = address.toNat >>> bits.toNat % 256 := by
  have hbits : bits.toNat % 32 = bits.toNat := Nat.mod_eq_of_lt (by omega)
  have hmask : (0xff : UInt32).toNat = 2 ^ 8 - 1 := rfl
  rw [octetAt, UInt32.toNat_and, UInt32.toNat_shiftRight, hbits, hmask,
    Nat.and_two_pow_sub_one_eq_mod]

theorem octets_ofOctets (a b c d : UInt8) :
    octetAt (ofOctets a b c d) 24 = a.toNat ∧ octetAt (ofOctets a b c d) 16 = b.toNat ∧
      octetAt (ofOctets a b c d) 8 = c.toNat ∧ octetAt (ofOctets a b c d) 0 = d.toNat := by
  have ha := a.toNat_lt
  have hb := b.toNat_lt
  have hc := c.toNat_lt
  have hd := d.toNat_lt
  have h24 : (24 : UInt32).toNat = 24 := rfl
  have h16 : (16 : UInt32).toNat = 16 := rfl
  have h8 : (8 : UInt32).toNat = 8 := rfl
  have h0 : (0 : UInt32).toNat = 0 := rfl
  rw [octetAt_eq _ (by decide), octetAt_eq _ (by decide), octetAt_eq _ (by decide),
    octetAt_eq _ (by decide), toNat_ofOctets, h24, h16, h8, h0]
  simp only [Nat.shiftRight_eq_div_pow]
  omega

/-- An address is written by its octets. -/
theorem toList_addressText (a b c d : UInt8) : (addressText (ofOctets a b c d)).toList =
    Nat.toDigits 10 a.toNat ++ '.' :: (Nat.toDigits 10 b.toNat ++ '.' ::
      (Nat.toDigits 10 c.toNat ++ '.' :: Nat.toDigits 10 d.toNat)) := by
  obtain ⟨ha, hb, hc, hd⟩ := octets_ofOctets a b c d
  have hpoint : (toString ".").toList = ['.'] := rfl
  simp only [addressText, ha, hb, hc, hd, String.toList_append, Nat.toString_eq_repr,
    Nat.toList_repr, hpoint, List.append_assoc, List.cons_append, List.nil_append]

/-- An octet is given by the digits of its value. -/
theorem eq_toDigits_of_octet? {digits : List Char} {octet : UInt8}
    (h : octet? digits = some octet) : digits = Nat.toDigits 10 octet.toNat := by
  rw [octet?, Option.ite_none_right_eq_some] at h
  obtain ⟨⟨-, hzero⟩, h⟩ := h
  obtain ⟨value, hvalue, rfl⟩ := Option.map_eq_some_iff.mp h
  obtain ⟨hne, hdigits, rfl, hle⟩ := Text.digits?_eq_some_iff.mp hvalue
  have hoctet : (UInt8.ofNat (Text.digitsValue digits)).toNat = Text.digitsValue digits :=
    UInt8.toNat_ofNat_of_lt (Nat.lt_succ_of_le hle)
  rw [hoctet, Text.toDigits_digitsValue hne hdigits hzero]

/-- The parts of a text, with the separators between them, make up the text. -/
theorem intercalate_splitOn (separator : Char) (text : List Char) :
    [separator].intercalate (splitOn separator text) = text := by
  induction text with
  | nil => rfl
  | cons c rest ih =>
      rw [splitOn]
      cases hparts : splitOn separator rest with
      | nil =>
          rw [hparts] at ih
          rw [← ih]
          simp
      | cons first others =>
          rw [hparts] at ih
          by_cases hc : c = separator
          · subst hc
            simp only [if_true, List.intercalate_cons_cons, ih]
            simp
          · simp only [hc, if_false]
            rw [← ih]
            cases others <;> simp [List.intercalate_cons_cons]

/-- An address has four octets, and only one form. -/
theorem exists_octets_of_address? {address : UInt32} (h : address? text = some address) :
    ∃ a b c d, address = ofOctets a b c d ∧ text = addressText (ofOctets a b c d) := by
  unfold address? at h
  split at h
  · rename_i a b c d hparts
    simp only [Option.bind_eq_bind, Option.bind_eq_some_iff, Option.pure_def, Option.some.injEq] at h
    obtain ⟨i, hi, j, hj, k, hk, l, hl, rfl⟩ := h
    refine ⟨i, j, k, l, rfl, ?_⟩
    have htext := intercalate_splitOn '.' text.toList
    rw [hparts] at htext
    rw [← String.toList_inj, toList_addressText, ← eq_toDigits_of_octet? hi,
      ← eq_toDigits_of_octet? hj, ← eq_toDigits_of_octet? hk, ← eq_toDigits_of_octet? hl, ← htext]
    simp [List.intercalate_cons_cons]
  · contradiction

/-! ## Blocks -/

/-- A block is read from what is before and after the first slash. -/
theorem parse?_eq_some_iff : parse? text = some cidr ↔
    ∃ address numeral, Text.splitAt? '/' text = some (address, numeral) ∧
      address? address = some cidr.address ∧ Text.natural? 255 numeral = some cidr.length := by
  simp only [parse?, Option.bind_eq_bind, Option.bind_eq_some_iff, Prod.exists]
  constructor
  · rintro ⟨address, numeral, hsplit, value, haddress, length, hlength, h⟩
    split at h
    · obtain rfl := Option.some.inj h
      exact ⟨address, numeral, hsplit, haddress, hlength⟩
    · contradiction
  · rintro ⟨address, numeral, hsplit, haddress, hlength⟩
    refine ⟨address, numeral, hsplit, cidr.address, haddress, cidr.length, hlength, ?_⟩
    rw [dif_pos cidr.length_le]

/-- A text for a block is the address, a slash, and a numeral for the length. -/
theorem eq_of_parse? (h : parse? text = some cidr) :
    ∃ numeral, text = addressText cidr.address ++ "/" ++ numeral ∧
      Text.natural? 255 numeral = some cidr.length := by
  obtain ⟨address, numeral, hsplit, haddress, hlength⟩ := parse?_eq_some_iff.mp h
  obtain ⟨htext, -⟩ := Text.splitAt?_eq_some_iff.mp hsplit
  obtain ⟨a, b, c, d, hoctets, rfl⟩ := exists_octets_of_address? haddress
  refine ⟨numeral, ?_, hlength⟩
  rw [← String.toList_inj, hoctets, htext]
  simp

/-- A text for a block begins with a digit, so it is no interpolation. -/
theorem not_isReference_of_parse? (h : parse? text = some cidr) :
    ¬Interpolation.IsReference text := by
  rintro ⟨inner, -, hinner⟩
  obtain ⟨address, numeral, hsplit, haddress, -⟩ := parse?_eq_some_iff.mp h
  obtain ⟨htext, -⟩ := Text.splitAt?_eq_some_iff.mp hsplit
  obtain ⟨a, b, c, d, -, rfl⟩ := exists_octets_of_address? haddress
  rw [hinner, toList_addressText] at htext
  cases hdigits : Nat.toDigits 10 a.toNat with
  | nil => exact Nat.toDigits_ne_nil hdigits
  | cons first rest =>
      have hfirst : first.isDigit = true :=
        Nat.isDigit_of_mem_toDigits (by decide) (by decide) (hdigits ▸ List.mem_cons_self ..)
      rw [hdigits] at htext
      rw [← (List.cons.inj htext).1] at hfirst
      exact absurd hfirst (by decide)

theorem parse?_of_isReference (h : Interpolation.IsReference text) : parse? text = none := by
  by_contra hsome
  obtain ⟨cidr, hparse⟩ := Option.ne_none_iff_exists'.mp hsome
  exact not_isReference_of_parse? hparse h

/-! ## The block of all addresses -/

/-- The text writes the block that all addresses belong to. -/
def WritesEverything (text : String) : Prop :=
  ∃ cidr, parse? text = some cidr ∧ cidr.size = Nat.pow 2 32

theorem size_eq_iff : cidr.size = Nat.pow 2 32 ↔ cidr.length = 0 := by
  have hle := cidr.length_le
  constructor
  · intro h
    have hlength : 32 - cidr.length = 32 := Nat.pow_right_injective (le_refl 2) h
    omega
  · intro h
    rw [size, h]

/-- The first address of all is zero. -/
theorem address_eq_zero (hsize : cidr.size = Nat.pow 2 32) (hnetwork : cidr.isNetwork = true) :
    cidr.address = 0 := by
  have hmask : cidr.mask = 0 := if_pos (size_eq_iff.mp hsize)
  rw [isNetwork, hmask, decide_eq_true_eq] at hnetwork
  simpa using hnetwork

/-- The form in which the block is written. -/
theorem text_eq_of_size (hsize : cidr.size = Nat.pow 2 32) (hnetwork : cidr.isNetwork = true) :
    cidr.text = "0.0.0.0/0" := by
  rw [Cidr.text, address_eq_zero hsize hnetwork, size_eq_iff.mp hsize]
  decide

/-- The block of all addresses, given by the first one, is read from a numeral for
zero. -/
theorem parse?_everything_iff :
    (∃ cidr, parse? text = some cidr ∧ cidr.size = Nat.pow 2 32 ∧ cidr.isNetwork = true) ↔
      ∃ numeral, text = "0.0.0.0/" ++ numeral ∧ Text.natural? 255 numeral = some 0 := by
  have hzero : addressText 0 = "0.0.0.0" := by decide
  constructor
  · rintro ⟨cidr, hparse, hsize, hnetwork⟩
    obtain ⟨numeral, rfl, hnumeral⟩ := eq_of_parse? hparse
    rw [address_eq_zero hsize hnetwork, hzero]
    exact ⟨numeral, rfl, size_eq_iff.mp hsize ▸ hnumeral⟩
  · rintro ⟨numeral, rfl, hnumeral⟩
    have hsplit : Text.splitAt? '/' ("0.0.0.0/" ++ numeral) = some ("0.0.0.0", numeral) := by
      refine Text.splitAt?_eq_some_iff.mpr ⟨?_, by decide⟩
      rw [String.toList_append]
      rfl
    have haddress : address? "0.0.0.0" = some 0 := by decide
    exact ⟨⟨0, 0, by decide⟩, parse?_eq_some_iff.mpr ⟨_, _, hsplit, haddress, hnumeral⟩, rfl, rfl⟩

/-- A plus sign and more zeros than one may stand for the length of that
block. -/
theorem numeral_everything_iff :
    (∃ numeral, text = "0.0.0.0/" ++ numeral ∧ Text.natural? 255 numeral = some 0) ↔
      ∃ more, text = "0.0.0.0/" ++ String.ofList (List.replicate (more + 1) '0') ∨
        text = "0.0.0.0/+" ++ String.ofList (List.replicate (more + 1) '0') := by
  have hplus : "0.0.0.0/+".toList = "0.0.0.0/".toList ++ ['+'] := rfl
  simp only [Text.natural?_eq_some_zero_iff, ← String.toList_inj, String.toList_append,
    String.toList_ofList, hplus, List.append_assoc, List.singleton_append]
  constructor
  · rintro ⟨numeral, htext, more, h | h⟩
    · exact ⟨more, Or.inl (h ▸ htext)⟩
    · exact ⟨more, Or.inr (h ▸ htext)⟩
  · rintro ⟨more, h | h⟩
    · exact ⟨String.ofList (List.replicate (more + 1) '0'),
        h.trans (congrArg _ String.toList_ofList.symm), more, Or.inl String.toList_ofList⟩
    · exact ⟨String.ofList ('+' :: List.replicate (more + 1) '0'),
        h.trans (congrArg _ String.toList_ofList.symm), more, Or.inr String.toList_ofList⟩

end Cidr

/-- A field that holds a block may hold an interpolation instead. -/
theorem checkCidr_eq_nil_iff {field value : String} {low high : Nat} :
    checkCidr field value low high = [] ↔ Interpolation.IsReference value ∨
      ∃ cidr, Cidr.parse? value = some cidr ∧ (low ≤ cidr.length ∧ cidr.length ≤ high) ∧
        cidr.isNetwork = true := by
  unfold checkCidr
  by_cases hreference : Interpolation.isInterpolation value = true
  · simp [hreference, Interpolation.isInterpolation_iff.mp hreference]
  · have hnot : ¬Interpolation.IsReference value :=
      fun h => hreference (Interpolation.isInterpolation_iff.mpr h)
    cases hparse : Cidr.parse? value <;> simp [hreference, hnot, List.append_eq_nil_iff]

/-- Where a list of blocks passes its check, each of them is given by its first
address. -/
theorem isNetwork_of_checkCidrs {field text : String} {values : List String} {cidr : Cidr}
    (h : checkCidrs field values = []) (htext : text ∈ values)
    (hparse : Cidr.parse? text = some cidr) : cidr.isNetwork = true := by
  obtain ⟨i, hi, rfl⟩ := List.mem_iff_getElem.mp htext
  have hcheck := Path.flatMapItems_eq_nil_iff.mp h i hi
  rcases checkCidr_eq_nil_iff.mp hcheck with hreference | ⟨found, hfound, -, hnetwork⟩
  · exact absurd hreference (Cidr.not_isReference_of_parse? hparse)
  · rw [hparse] at hfound
    rwa [Option.some.inj hfound]

end InfraSynth.Aws
