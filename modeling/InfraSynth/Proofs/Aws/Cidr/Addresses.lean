import InfraSynth.Proofs.Aws.Cidr
import Mathlib.Data.Nat.Bitwise
import Mathlib.Data.Set.Card
import Mathlib.Order.Interval.Finset.Nat

/-!
# The addresses of an IPv4 block

A block stands for the addresses that begin with the same bits as its own address.
The operations on blocks look at masks, lengths and octets, and never at that set;
`Cidr.operations_agree_with_addresses` says that each of them answers a question
about it: inclusion, the number of addresses, the least one, and whether all of them
are private.

## Strategy

Bits are turned into divisions.  Addresses begin with the same `length` bits exactly
if they have the same quotient by `size`, `mem_addresses_iff`, and the mask keeps
`size` times that quotient, `toNat_and_mask`.

What remains is that a block that is too large for a range also has addresses outside
of it.  If a block has fewer than `n` bits in common, then the last of the first `n`
bits may be flipped without leaving the block, `exists_flipped`.  For inclusion `n` is
the length of the other block.  For a private range it is the length of that range,
and in each of the three ranges the flipped address is outside of all of them.
-/

namespace InfraSynth.Aws.Cidr

/-- The addresses of a block: those that begin with the same bits as its address. -/
def addresses (cidr : Cidr) : Set UInt32 :=
  {address | ∀ i < cidr.length, address.toBitVec.getMsbD i = cidr.address.toBitVec.getMsbD i}

/-- The ranges set aside for private networks. -/
def privateBlocks : List Cidr := [
  { address := ofOctets 10 0 0 0, length := 8 },
  { address := ofOctets 172 16 0 0, length := 12 },
  { address := ofOctets 192 168 0 0, length := 16 }]

example : privateBlocks.map text = ["10.0.0.0/8", "172.16.0.0/12", "192.168.0.0/16"] := by
  decide

variable {cidr x y : Cidr} {a b : UInt32}

theorem size_eq : cidr.size = 2 ^ (32 - cidr.length) :=
  rfl

theorem size_pos : 0 < cidr.size :=
  Nat.two_pow_pos _

/-! ## Bits and quotients -/

theorem getMsbD_toBitVec (a : UInt32) {i : ℕ} (h : i < 32) :
    a.toBitVec.getMsbD i = a.toNat.testBit (31 - i) := by
  rw [BitVec.getMsbD_eq_getLsbD, decide_eq_true h, Bool.true_and]
  rfl

theorem testBit_of_le (a : UInt32) {i : ℕ} (h : 32 ≤ i) : a.toNat.testBit i = false := by
  have hlt : a.toNat < 2 ^ i :=
    calc a.toNat < 2 ^ 32 := a.toNat_lt
      _ ≤ 2 ^ i := Nat.pow_le_pow_right (by decide) h
  exact Nat.testBit_lt_two_pow hlt

theorem self_mem_addresses : cidr.address ∈ cidr.addresses :=
  fun _ _ => rfl

/-- An address belongs to a block if it has the same quotient by its size. -/
theorem mem_addresses_iff :
    a ∈ cidr.addresses ↔ a.toNat / cidr.size = cidr.address.toNat / cidr.size := by
  have hlength := cidr.length_le
  rw [size_eq]
  constructor
  · intro h
    apply Nat.eq_of_testBit_eq
    intro i
    rw [Nat.testBit_div_two_pow, Nat.testBit_div_two_pow]
    rcases Nat.lt_or_ge (i + (32 - cidr.length)) 32 with hi | hi
    · have hbit := h (31 - (i + (32 - cidr.length))) (by omega)
      have hindex : 31 - (31 - (i + (32 - cidr.length))) = i + (32 - cidr.length) := by omega
      rwa [getMsbD_toBitVec _ (by omega), getMsbD_toBitVec _ (by omega), hindex] at hbit
    · rw [testBit_of_le _ hi, testBit_of_le _ hi]
  · intro h i hi
    have hbit := congrArg (Nat.testBit · (31 - i - (32 - cidr.length))) h
    have hindex : 31 - i - (32 - cidr.length) + (32 - cidr.length) = 31 - i := by omega
    simp only [Nat.testBit_div_two_pow, hindex] at hbit
    rwa [getMsbD_toBitVec _ (by omega), getMsbD_toBitVec _ (by omega)]

theorem testBit_mask {i : ℕ} (h : i < 32) :
    cidr.mask.toNat.testBit i = decide (32 - cidr.length ≤ i) := by
  have hlength := cidr.length_le
  unfold mask
  split
  · rename_i hzero
    have hi : ¬32 - cidr.length ≤ i := by omega
    rw [decide_eq_false hi]
    exact Nat.zero_testBit i
  · have hbits : (UInt32.ofNat (32 - cidr.length)).toNat % 32 = 32 - cidr.length := by
      rw [UInt32.toNat_ofNat_of_lt' (by simp only [UInt32.size]; omega)]
      exact Nat.mod_eq_of_lt (by omega)
    have hones : (0xffffffff : UInt32).toNat = 2 ^ 32 - 1 := rfl
    rw [UInt32.toNat_shiftLeft, hbits, hones, Nat.testBit_mod_two_pow, Nat.testBit_shiftLeft,
      Nat.testBit_two_pow_sub_one, decide_eq_true h, Bool.true_and]
    have hi : decide (i - (32 - cidr.length) < 32) = true := decide_eq_true (by omega)
    rw [hi, Bool.and_true]

/-- The mask takes an address to the first one of its block. -/
theorem toNat_and_mask : (a &&& cidr.mask).toNat = a.toNat / cidr.size * cidr.size := by
  rw [size_eq]
  apply Nat.eq_of_testBit_eq
  intro i
  rw [UInt32.toNat_and, Nat.testBit_and, Nat.testBit_mul_two_pow, Nat.testBit_div_two_pow]
  rcases Nat.lt_or_ge i 32 with hi | hi
  · rw [testBit_mask hi]
    by_cases hkept : 32 - cidr.length ≤ i
    · rw [Nat.sub_add_cancel hkept, Bool.and_comm]
    · simp [hkept]
  · have hsum : 32 ≤ i - (32 - cidr.length) + (32 - cidr.length) := by omega
    rw [testBit_of_le a hi, testBit_of_le a hsum, Bool.false_and, Bool.and_false]

/-- What the mask leaves out is the distance from there. -/
theorem toNat_and_not_mask : (a &&& ~~~cidr.mask).toNat = a.toNat % cidr.size := by
  rw [size_eq]
  apply Nat.eq_of_testBit_eq
  intro i
  rw [Nat.testBit_mod_two_pow]
  rcases Nat.lt_or_ge i 32 with hi | hi
  · have hnot : (~~~cidr.mask).toNat.testBit i = !cidr.mask.toNat.testBit i := by
      show (~~~cidr.mask.toBitVec).getLsbD i = _
      rw [BitVec.getLsbD_not, decide_eq_true hi, Bool.true_and]
      rfl
    have hrest : (!decide (32 - cidr.length ≤ i)) = decide (i < 32 - cidr.length) := by
      rw [← decide_not]
      exact decide_eq_decide.mpr Nat.not_le
    rw [UInt32.toNat_and, Nat.testBit_and, hnot, testBit_mask hi, hrest, Bool.and_comm]
  · rw [testBit_of_le _ hi, testBit_of_le _ hi, Bool.and_false]

/-- The mask shows which block of its size an address is in. -/
theorem and_mask_eq_iff :
    a &&& cidr.mask = b &&& cidr.mask ↔ a.toNat / cidr.size = b.toNat / cidr.size := by
  calc a &&& cidr.mask = b &&& cidr.mask
      ↔ a.toNat / cidr.size * cidr.size = b.toNat / cidr.size * cidr.size := by
        rw [← UInt32.toNat_inj, toNat_and_mask, toNat_and_mask]
    _ ↔ a.toNat / cidr.size = b.toNat / cidr.size := Nat.mul_left_inj size_pos.ne'

/-! ## Inclusion -/

/-- The last of the first `n` bits may be flipped within a block that has fewer bits in
common. -/
theorem exists_flipped {n : ℕ} (hlow : cidr.length < n) (hhigh : n ≤ 32) :
    ∃ a ∈ cidr.addresses, a.toNat / 2 ^ (32 - n) = cidr.address.toNat / 2 ^ (32 - n) ^^^ 1 := by
  have hbit : 2 ^ (32 - n) < UInt32.size := by
    have hpow : 2 ^ (32 - n) < 2 ^ 32 := Nat.pow_lt_pow_right (by decide) (by omega)
    exact hpow
  have hflip : (cidr.address ^^^ UInt32.ofNat (2 ^ (32 - n))).toNat =
      cidr.address.toNat ^^^ 2 ^ (32 - n) := by
    rw [UInt32.toNat_xor, UInt32.toNat_ofNat_of_lt' hbit]
  refine ⟨cidr.address ^^^ UInt32.ofNat (2 ^ (32 - n)), ?_, ?_⟩
  · -- the flipped bit is not among those that the block has in common
    have hsmall : 2 ^ (32 - n) < 2 ^ (32 - cidr.length) :=
      Nat.pow_lt_pow_right (by decide) (by omega)
    rw [mem_addresses_iff, hflip, size_eq]
    calc (cidr.address.toNat ^^^ 2 ^ (32 - n)) / 2 ^ (32 - cidr.length)
        = cidr.address.toNat / 2 ^ (32 - cidr.length) ^^^
            2 ^ (32 - n) / 2 ^ (32 - cidr.length) := Nat.xor_div_two_pow
      _ = cidr.address.toNat / 2 ^ (32 - cidr.length) := by
          rw [Nat.div_eq_of_lt hsmall, Nat.xor_zero]
  · rw [hflip, Nat.xor_div_two_pow, Nat.div_self (Nat.two_pow_pos _)]

theorem xor_one_ne (n : ℕ) : n ^^^ 1 ≠ n := by
  intro h
  have hzero : n ^^^ 1 = n ^^^ 0 := h.trans (Nat.xor_zero n).symm
  exact absurd (Nat.xor_right_injective hzero) (by decide)

theorem isWithin_iff :
    x.isWithin y = true ↔ y.length ≤ x.length ∧ x.address ∈ y.addresses := by
  rw [isWithin, Bool.and_eq_true, decide_eq_true_eq, decide_eq_true_eq, and_mask_eq_iff,
    mem_addresses_iff]

/-- A block belongs to another one if its addresses do. -/
theorem isWithin_iff_subset : x.isWithin y = true ↔ x.addresses ⊆ y.addresses := by
  rw [isWithin_iff]
  constructor
  · -- the bits in common with the inner block include those in common with the outer one
    rintro ⟨hlength, haddress⟩ a ha i hi
    have hinner : i < x.length := lt_of_lt_of_le hi hlength
    exact (ha i hinner).trans (haddress i hi)
  · intro hsubset
    have haddress : x.address ∈ y.addresses := hsubset self_mem_addresses
    refine ⟨?_, haddress⟩
    by_contra hlength
    obtain ⟨a, ha, hquotient⟩ := exists_flipped (Nat.lt_of_not_le hlength) y.length_le
    have hsame : a.toNat / y.size = x.address.toNat / y.size :=
      calc a.toNat / y.size
          = y.address.toNat / y.size := mem_addresses_iff.mp (hsubset ha)
        _ = x.address.toNat / y.size := (mem_addresses_iff.mp haddress).symm
    exact xor_one_ne _ (hquotient.symm.trans hsame)

/-! ## The first address and the number of addresses -/

/-- The addresses of a block follow each other. -/
theorem mem_addresses_iff_mem_Ico : a ∈ cidr.addresses ↔
    a.toNat ∈ Set.Ico (cidr.address &&& cidr.mask).toNat
      ((cidr.address &&& cidr.mask).toNat + cidr.size) := by
  rw [mem_addresses_iff, toNat_and_mask, Set.mem_Ico, Nat.div_eq_iff size_pos]
  have hpos : 0 < cidr.size := size_pos
  omega

theorem isNetwork_iff : cidr.isNetwork = true ↔ cidr.address.toNat % cidr.size = 0 := by
  rw [isNetwork, decide_eq_true_eq, ← UInt32.toNat_inj, toNat_and_not_mask]
  rfl

/-- The address of a block is the first one if it is the least. -/
theorem isNetwork_iff_isLeast :
    cidr.isNetwork = true ↔ IsLeast cidr.addresses cidr.address := by
  have hparts := Nat.div_add_mod' cidr.address.toNat cidr.size
  rw [isNetwork_iff]
  constructor
  · intro hnetwork
    refine ⟨self_mem_addresses, fun a ha => ?_⟩
    have hlow := (mem_addresses_iff_mem_Ico.mp ha).1
    rw [toNat_and_mask] at hlow
    show cidr.address.toNat ≤ a.toNat
    omega
  · rintro ⟨-, hleast⟩
    have hfirst : cidr.address &&& cidr.mask ∈ cidr.addresses :=
      mem_addresses_iff_mem_Ico.mpr ⟨le_rfl, Nat.lt_add_of_pos_right size_pos⟩
    have hle : cidr.address.toNat ≤ (cidr.address &&& cidr.mask).toNat := hleast hfirst
    rw [toNat_and_mask] at hle
    omega

theorem first_add_size_le : (cidr.address &&& cidr.mask).toNat + cidr.size ≤ 2 ^ 32 := by
  have hlength := cidr.length_le
  have hall : 2 ^ cidr.length * cidr.size = 2 ^ 32 := by
    rw [size_eq, ← Nat.pow_add, Nat.add_sub_cancel' hlength]
  have hquotient : cidr.address.toNat / cidr.size < 2 ^ cidr.length := by
    rw [Nat.div_lt_iff_lt_mul size_pos, hall]
    exact cidr.address.toNat_lt
  calc (cidr.address &&& cidr.mask).toNat + cidr.size
      = (cidr.address.toNat / cidr.size + 1) * cidr.size := by
        rw [toNat_and_mask, Nat.succ_mul]
    _ ≤ 2 ^ cidr.length * cidr.size := Nat.mul_le_mul_right _ hquotient
    _ = 2 ^ 32 := hall

/-- The size of a block is the number of its addresses. -/
theorem size_eq_ncard : cidr.size = cidr.addresses.ncard := by
  have hinjective : Function.Injective UInt32.toNat := fun _ _ h => UInt32.toNat_inj.mp h
  have himage : UInt32.toNat '' cidr.addresses =
      Set.Ico (cidr.address &&& cidr.mask).toNat
        ((cidr.address &&& cidr.mask).toNat + cidr.size) := by
    ext n
    constructor
    · rintro ⟨a, ha, rfl⟩
      exact mem_addresses_iff_mem_Ico.mp ha
    · intro hn
      have hlt : n < UInt32.size := lt_of_lt_of_le hn.2 first_add_size_le
      have hvalue : (UInt32.ofNat n).toNat = n := UInt32.toNat_ofNat_of_lt' hlt
      exact ⟨UInt32.ofNat n, mem_addresses_iff_mem_Ico.mpr (hvalue.symm ▸ hn), hvalue⟩
  symm
  calc cidr.addresses.ncard
      = (UInt32.toNat '' cidr.addresses).ncard :=
        (Set.ncard_image_of_injective _ hinjective).symm
    _ = (Set.Ico (cidr.address &&& cidr.mask).toNat
          ((cidr.address &&& cidr.mask).toNat + cidr.size)).ncard := by rw [himage]
    _ = cidr.size := by
        rw [Set.ncard_eq_toFinset_card', Set.toFinset_Ico, Nat.card_Ico, Nat.add_sub_cancel_left]

/-! ## Private ranges -/

/-- The address belongs to one of the private ranges. -/
def IsPrivate (a : UInt32) : Prop :=
  ∃ block ∈ privateBlocks, a ∈ block.addresses

/-- Which addresses are private, in numbers. -/
theorem isPrivate_iff_div : IsPrivate a ↔
    a.toNat / 2 ^ 24 = 10 ∨ a.toNat / 2 ^ 20 = 2753 ∨ a.toNat / 2 ^ 16 = 49320 := by
  simp only [IsPrivate, privateBlocks, List.mem_cons, List.not_mem_nil, or_false,
    exists_eq_or_imp, exists_eq_left, mem_addresses_iff, size_eq, toNat_ofOctets]
  exact Iff.rfl

theorem first_octet (a : UInt32) : octetAt a 24 = a.toNat / 2 ^ 24 := by
  have hlt := a.toNat_lt
  have hbits : (24 : UInt32).toNat = 24 := rfl
  rw [octetAt_eq _ (by decide), hbits, Nat.shiftRight_eq_div_pow]
  omega

theorem second_octet (a : UInt32) : octetAt a 16 = a.toNat / 2 ^ 16 % 256 := by
  have hbits : (16 : UInt32).toNat = 16 := rfl
  rw [octetAt_eq _ (by decide), hbits, Nat.shiftRight_eq_div_pow]

/-- The octets show whether an address is private. -/
theorem isPrivateAddress_iff : isPrivateAddress a = true ↔ IsPrivate a := by
  rw [isPrivate_iff_div]
  simp only [isPrivateAddress, first_octet, second_octet, Bool.or_eq_true, Bool.and_eq_true,
    decide_eq_true_eq]
  omega

theorem privateLength_eq (a : UInt32) : privateLength a =
    if a.toNat / 2 ^ 24 = 10 then 8 else if a.toNat / 2 ^ 24 = 172 then 12 else 16 := by
  rw [privateLength, first_octet]
  split <;> simp_all

/-- The first octet shows in which range a private address is. -/
theorem exists_block (h : IsPrivate a) :
    ∃ block ∈ privateBlocks, a ∈ block.addresses ∧ block.length = privateLength a := by
  obtain ⟨block, hblock, hmem⟩ := h
  refine ⟨block, hblock, hmem, ?_⟩
  rw [mem_addresses_iff, size_eq] at hmem
  rw [privateLength_eq]
  simp only [privateBlocks, List.mem_cons, List.not_mem_nil, or_false] at hblock
  rcases hblock with rfl | rfl | rfl
  · have hquotient : a.toNat / 2 ^ 24 = 10 := hmem
    rw [if_pos hquotient]
  · have hquotient : a.toNat / 2 ^ 20 = 2753 := hmem
    rw [if_neg (by omega), if_pos (by omega)]
  · have hquotient : a.toNat / 2 ^ 16 = 49320 := hmem
    rw [if_neg (by omega), if_neg (by omega)]

/-- Flipping the last bit that a private range has in common leads out of all of
them. -/
theorem not_isPrivate_of_flipped {block : Cidr} (hblock : block ∈ privateBlocks)
    (h : a.toNat / block.size = block.address.toNat / block.size ^^^ 1) : ¬IsPrivate a := by
  rw [isPrivate_iff_div]
  rw [size_eq] at h
  simp only [privateBlocks, List.mem_cons, List.not_mem_nil, or_false] at hblock
  rcases hblock with rfl | rfl | rfl
  · have hquotient : a.toNat / 2 ^ 24 = 11 := h
    omega
  · have hquotient : a.toNat / 2 ^ 20 = 2752 := h
    omega
  · have hquotient : a.toNat / 2 ^ 16 = 49321 := h
    omega

/-- A block is private if all of its addresses are. -/
theorem isPrivate_iff : cidr.isPrivate = true ↔ ∀ a ∈ cidr.addresses, IsPrivate a := by
  rw [isPrivate, Bool.and_eq_true, decide_eq_true_eq, isPrivateAddress_iff]
  constructor
  · rintro ⟨hprivate, hlength⟩ a ha
    obtain ⟨block, hblock, hmem, hrange⟩ := exists_block hprivate
    have hwithin : cidr.isWithin block = true := isWithin_iff.mpr ⟨hrange ▸ hlength, hmem⟩
    exact ⟨block, hblock, isWithin_iff_subset.mp hwithin ha⟩
  · intro hall
    have hprivate : IsPrivate cidr.address := hall _ self_mem_addresses
    obtain ⟨block, hblock, hmem, hrange⟩ := exists_block hprivate
    refine ⟨hprivate, ?_⟩
    rw [← hrange]
    by_contra hlength
    obtain ⟨a, ha, hflipped⟩ := exists_flipped (Nat.lt_of_not_le hlength) block.length_le
    refine not_isPrivate_of_flipped hblock ?_ (hall a ha)
    rw [← mem_addresses_iff.mp hmem]
    exact hflipped

/-- **What is said of blocks holds of their addresses.**  One block belongs to another
exactly if all its addresses do, the size is the number of addresses, the address is
the first one if it is the least, and a block is private exactly if each of its
addresses is in one of the private ranges. -/
theorem operations_agree_with_addresses (x y : Cidr) :
    (x.isWithin y = true ↔ x.addresses ⊆ y.addresses) ∧
      x.size = x.addresses.ncard ∧
      (x.isNetwork = true ↔ IsLeast x.addresses x.address) ∧
      (x.isPrivate = true ↔
        ∀ a ∈ x.addresses, ∃ block ∈ privateBlocks, a ∈ block.addresses) :=
  ⟨isWithin_iff_subset, size_eq_ncard, isNetwork_iff_isLeast, isPrivate_iff⟩

end InfraSynth.Aws.Cidr
