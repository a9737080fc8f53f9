import InfraSynth.Number.Binary64
import Mathlib.Data.Nat.Log

/-!
# Whole numbers of the binary64 format

Naturals below `2 ^ 53` are numbers of the format, and sums that stay below it
are exact.  A number is not rounded if the distance between its neighbours
divides it; for whole numbers of this size that distance divides one.
-/

namespace InfraSynth.Binary64

/-- A natural as a number, without rounding. -/
def whole (n : Nat) : Binary64 :=
  ⟨false, n * one⟩

/-- A multiple of the distance between its neighbours is not rounded. -/
theorem roundUnits_of_spacing_dvd {units : Nat} (h : spacing units ∣ units) :
    roundUnits units 1 = units := by
  have hpos : 0 < spacing units := Nat.pow_pos (by decide)
  calc roundUnits units 1
      = roundHalfEven units (spacing units) * spacing units := by
        rw [roundUnits, Nat.div_one, Nat.one_mul]
    _ = units / spacing units * spacing units := by
        rw [roundHalfEven, Nat.mod_eq_zero_of_dvd h, Nat.mul_zero, if_pos hpos]
    _ = units := Nat.div_mul_cancel h

theorem spacing_dvd {n unit e : Nat} (hn : n < Nat.pow 2 53) (hunit : unit = Nat.pow 2 e) :
    spacing (n * unit) ∣ n * unit := by
  rcases Nat.eq_zero_or_pos n with rfl | hpos
  · rw [Nat.zero_mul]
    exact Nat.dvd_zero _
  · have hunitPos : 0 < unit := hunit ▸ Nat.pow_pos (by decide)
    have hlt : n * unit < Nat.pow 2 (53 + e) := by
      rw [show Nat.pow 2 (53 + e) = Nat.pow 2 53 * unit from hunit ▸ Nat.pow_add 2 53 e]
      exact Nat.mul_lt_mul_of_pos_right hn hunitPos
    have hlog : (n * unit).log2 < 53 + e :=
      (Nat.log2_lt (Nat.mul_pos hpos hunitPos).ne').mpr hlt
    have hspacing : spacing (n * unit) ∣ Nat.pow 2 e := Nat.pow_dvd_pow 2 (by omega)
    exact Nat.dvd_mul_left_of_dvd (hunit ▸ hspacing) n

theorem exists_one_eq_pow : ∃ e, one = Nat.pow 2 e := by
  unfold one
  exact ⟨_, rfl⟩

theorem spacing_dvd_whole {n : Nat} (h : n < Nat.pow 2 53) : spacing (n * one) ∣ n * one := by
  obtain ⟨e, hone⟩ := exists_one_eq_pow
  exact spacing_dvd h hone

theorem ofNat_eq_whole {n : Nat} (h : n < Nat.pow 2 53) : ofNat n = whole n := by
  rw [ofNat, ofRatio, roundUnits_of_spacing_dvd (spacing_dvd_whole h), whole]

/-- Sums of whole numbers are exact. -/
theorem add_whole {m n : Nat} (h : m + n < Nat.pow 2 53) :
    (whole m).add (whole n) = whole (m + n) := by
  have hunits : m * one + n * one = (m + n) * one := (Nat.add_mul m n one).symm
  rw [add, if_pos (show (whole m).negative = (whole n).negative from rfl)]
  show Binary64.mk false (roundUnits (m * one + n * one) 1) = whole (m + n)
  rw [hunits, roundUnits_of_spacing_dvd (spacing_dvd_whole h), whole]

end InfraSynth.Binary64
