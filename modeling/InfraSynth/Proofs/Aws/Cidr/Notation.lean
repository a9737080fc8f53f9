import InfraSynth.Proofs.Aws.Cidr

/-!
# The notation of an IPv4 block

The notation of a block is four octets in decimal with points between them, a slash,
and the length in decimal.  Every block has one notation, which is how it is written,
and every notation is read.

More texts are read than that: the length may have a plus sign and zeros in front.
`Cidr.parse?_iff_spelling` says that there are no others, so a text that is read is a
notation exactly if its length has neither.

## Strategy

Addresses are read back from the text that they are written as, octet by octet,
`address?_addressText`.  The numeral for the length is known from the numerals of its
number, `Text.natural?_eq_some_iff_zeros`.
-/

namespace InfraSynth.Aws.Cidr

variable {text : String} {cidr : Cidr}

/-- The text is the notation of the block. -/
def IsNotation (cidr : Cidr) (text : String) : Prop :=
  ∃ a b c d : Nat, (a ≤ 255 ∧ b ≤ 255 ∧ c ≤ 255 ∧ d ≤ 255) ∧
    text = s!"{a}.{b}.{c}.{d}/{cidr.length}" ∧
    cidr.address.toNat = a * 16777216 + b * 65536 + c * 256 + d

/-- The block as text, with or without a plus sign and with more zeros in front of its
length. -/
def spelling (cidr : Cidr) (plus : Bool) (zeros : Nat) : String :=
  let sign := if plus then "+" else ""
  let padding := String.ofList (List.replicate zeros '0')
  s!"{addressText cidr.address}/{sign}{padding}{cidr.length}"

/-! ## Reading what has been written -/

theorem splitOn_of_not_mem {separator : Char} {part : List Char} (h : separator ∉ part) :
    splitOn separator part = [part] := by
  induction part with
  | nil => rfl
  | cons c rest ih =>
      rw [splitOn, ih (List.not_mem_of_not_mem_cons h)]
      exact if_neg (Ne.symm (List.ne_of_not_mem_cons h))

theorem splitOn_ne_nil (separator : Char) (text : List Char) : splitOn separator text ≠ [] := by
  cases text with
  | nil => exact List.cons_ne_nil _ _
  | cons c rest =>
      rw [splitOn]
      split
      · exact List.cons_ne_nil _ _
      · split <;> exact List.cons_ne_nil _ _

theorem splitOn_append {separator : Char} {part : List Char} (h : separator ∉ part)
    (rest : List Char) :
    splitOn separator (part ++ separator :: rest) = part :: splitOn separator rest := by
  induction part with
  | nil =>
      rw [List.nil_append, splitOn]
      cases hrest : splitOn separator rest with
      | nil => exact absurd hrest (splitOn_ne_nil separator rest)
      | cons first others => exact if_pos rfl
  | cons c others ih =>
      rw [List.cons_append, splitOn, ih (List.not_mem_of_not_mem_cons h)]
      exact if_neg (Ne.symm (List.ne_of_not_mem_cons h))

/-- An octet is read from its digits. -/
theorem octet?_toDigits (octet : UInt8) :
    octet? (Nat.toDigits 10 octet.toNat) = some octet := by
  have hlt := octet.toNat_lt
  have hlength : (Nat.toDigits 10 octet.toNat).length ≤ 3 :=
    (Nat.length_toDigits_le_iff (by decide) (by decide)).mpr (by omega)
  have hvalue : Text.digits? 255 (Nat.toDigits 10 octet.toNat) = some octet.toNat :=
    Text.digits?_eq_some_iff_zeros.mpr ⟨by omega, 0, rfl⟩
  rw [octet?, if_pos ⟨hlength, Text.length_toDigits_of_head?⟩, hvalue, Option.map_some,
    UInt8.ofNat_toNat]

theorem not_mem_toDigits {c : Char} (h : Text.isAsciiDigit c = false) (n : Nat) :
    c ∉ Nat.toDigits 10 n := by
  intro hc
  rw [Text.isAsciiDigit_of_mem_toDigits hc] at h
  contradiction

theorem toNat_octet {n : Nat} (h : n ≤ 255) : (UInt8.ofNat n).toNat = n :=
  UInt8.toNat_ofNat_of_lt' (Nat.lt_succ_of_le h)

/-- Four numbers of 8 bits make up an address. -/
theorem toNat_ofOctets_ofNat {a b c d : Nat} (ha : a ≤ 255) (hb : b ≤ 255) (hc : c ≤ 255)
    (hd : d ≤ 255) : (ofOctets (.ofNat a) (.ofNat b) (.ofNat c) (.ofNat d)).toNat =
      a * 16777216 + b * 65536 + c * 256 + d := by
  rw [toNat_ofOctets, toNat_octet ha, toNat_octet hb, toNat_octet hc, toNat_octet hd]

theorem exists_octets (address : UInt32) : ∃ a b c d, address = ofOctets a b c d := by
  have hlt := address.toNat_lt
  refine ⟨.ofNat (address.toNat / 16777216), .ofNat (address.toNat / 65536 % 256),
    .ofNat (address.toNat / 256 % 256), .ofNat (address.toNat % 256), ?_⟩
  rw [← UInt32.toNat_inj,
    toNat_ofOctets_ofNat (by omega) (by omega) (by omega) (by omega)]
  omega

theorem address?_addressText (address : UInt32) :
    address? (addressText address) = some address := by
  obtain ⟨a, b, c, d, rfl⟩ := exists_octets address
  have hpoint : Text.isAsciiDigit '.' = false := rfl
  have hparts : splitOn '.' (addressText (ofOctets a b c d)).toList =
      [Nat.toDigits 10 a.toNat, Nat.toDigits 10 b.toNat, Nat.toDigits 10 c.toNat,
        Nat.toDigits 10 d.toNat] := by
    rw [toList_addressText, splitOn_append (not_mem_toDigits hpoint _),
      splitOn_append (not_mem_toDigits hpoint _), splitOn_append (not_mem_toDigits hpoint _),
      splitOn_of_not_mem (not_mem_toDigits hpoint _)]
  rw [address?, hparts]
  simp only [octet?_toDigits]
  rfl

/-! ## All texts for a block -/

theorem slash_not_mem_addressText (address : UInt32) : '/' ∉ (addressText address).toList := by
  obtain ⟨a, b, c, d, rfl⟩ := exists_octets address
  have hslash : ∀ n, '/' ∉ Nat.toDigits 10 n := not_mem_toDigits rfl
  simp [toList_addressText, hslash]

theorem toList_spelling (plus : Bool) (zeros : Nat) : (cidr.spelling plus zeros).toList =
    (addressText cidr.address).toList ++ '/' :: ((if plus then ['+'] else []) ++
      (List.replicate zeros '0' ++ Nat.toDigits 10 cidr.length)) := by
  cases plus <;> simp [spelling, Text.toString_eq, String.toList_append, Nat.toList_repr]

/-- The texts that are read as a block. -/
theorem parse?_eq_some_iff_spelling :
    parse? text = some cidr ↔ ∃ plus zeros, text = cidr.spelling plus zeros := by
  have hlength : cidr.length ≤ 255 := cidr.length_le.trans (by decide)
  constructor
  · intro h
    obtain ⟨numeral, rfl, hnumeral⟩ := eq_of_parse? h
    simp only [← String.toList_inj, toList_spelling]
    obtain ⟨-, zeros, hplain | hplus⟩ := Text.natural?_eq_some_iff_zeros.mp hnumeral
    · exact ⟨false, zeros, by simp [hplain]⟩
    · exact ⟨true, zeros, by simp [hplus]⟩
  · rintro ⟨plus, zeros, rfl⟩
    refine parse?_eq_some_iff.mpr ⟨addressText cidr.address,
      String.ofList ((if plus then ['+'] else []) ++
        (List.replicate zeros '0' ++ Nat.toDigits 10 cidr.length)), ?_, ?_, ?_⟩
    · rw [Text.splitAt?_eq_some_iff, toList_spelling, String.toList_ofList]
      exact ⟨rfl, slash_not_mem_addressText _⟩
    · exact address?_addressText _
    · refine Text.natural?_eq_some_iff_zeros.mpr ⟨hlength, zeros, ?_⟩
      cases plus <;> simp

theorem text_eq_spelling : cidr.text = cidr.spelling false 0 := by
  rw [← String.toList_inj, toList_spelling]
  simp [Cidr.text, Text.toString_eq, String.toList_append, Nat.toList_repr]

/-- Without sign and zeros the text of a block is as it is written. -/
theorem spelling_eq_text_iff {plus : Bool} {zeros : Nat} :
    cidr.spelling plus zeros = cidr.text ↔ plus = false ∧ zeros = 0 := by
  constructor
  · intro h
    rw [text_eq_spelling, ← String.toList_inj, toList_spelling, toList_spelling] at h
    have hlength := congrArg List.length h
    cases plus <;> simp at hlength ⊢ <;> omega
  · rintro ⟨rfl, rfl⟩
    exact text_eq_spelling.symm

/-- The notation of a block is the text that it is written as. -/
theorem isNotation_iff : cidr.IsNotation text ↔ text = cidr.text := by
  have hwritten : ∀ a b c d, cidr.address = ofOctets a b c d →
      cidr.text = s!"{a.toNat}.{b.toNat}.{c.toNat}.{d.toNat}/{cidr.length}" := by
    intro a b c d haddress
    obtain ⟨ha, hb, hc, hd⟩ := octets_ofOctets a b c d
    rw [Cidr.text, haddress, addressText, ha, hb, hc, hd]
    rfl
  constructor
  · rintro ⟨a, b, c, d, ⟨ha, hb, hc, hd⟩, rfl, haddress⟩
    have hoctets : cidr.address = ofOctets (.ofNat a) (.ofNat b) (.ofNat c) (.ofNat d) := by
      rw [← UInt32.toNat_inj, haddress, toNat_ofOctets_ofNat ha hb hc hd]
    rw [hwritten _ _ _ _ hoctets, toNat_octet ha, toNat_octet hb, toNat_octet hc, toNat_octet hd]
  · rintro rfl
    obtain ⟨a, b, c, d, haddress⟩ := exists_octets cidr.address
    have ha := a.toNat_lt
    have hb := b.toNat_lt
    have hc := c.toNat_lt
    have hd := d.toNat_lt
    refine ⟨a.toNat, b.toNat, c.toNat, d.toNat, by omega, hwritten a b c d haddress, ?_⟩
    rw [haddress, toNat_ofOctets]

/-- **A text is read as a block exactly if it is the notation of the block, up to a plus
sign and zeros in front of the length.**  With neither of these it is the notation, which
is how the block is written; with any of them it is not. -/
theorem parse?_iff_spelling (cidr : Cidr) (text : String) :
    (parse? text = some cidr ↔ ∃ plus zeros, text = cidr.spelling plus zeros) ∧
      (∀ plus zeros, cidr.IsNotation (cidr.spelling plus zeros) ↔ plus = false ∧ zeros = 0) ∧
      (cidr.IsNotation text ↔ text = cidr.text) := by
  refine ⟨parse?_eq_some_iff_spelling, fun plus zeros => ?_, isNotation_iff⟩
  rw [isNotation_iff, spelling_eq_text_iff]

/-- A zero in front of the length is read over: there are two texts for one block, one of
which is not its notation. -/
theorem parse?_paddedLength : ∃ cidr, parse? "10.0.0.0/8" = some cidr ∧
    parse? "10.0.0.0/08" = some cidr ∧ ¬cidr.IsNotation "10.0.0.0/08" := by
  have hplain : parse? "10.0.0.0/8" = some ⟨167772160, 8, by decide⟩ := by decide
  have hpadded : parse? "10.0.0.0/08" = some ⟨167772160, 8, by decide⟩ := by decide
  refine ⟨_, hplain, hpadded, fun h => ?_⟩
  have htext := isNotation_iff.mp h
  revert htext
  decide

end InfraSynth.Aws.Cidr
