import Mathlib.Algebra.Order.Ring.Nat
import Mathlib.Tactic.Ring

/-! # Masks, xorshift steps and packed bytes as arithmetic

A mask of leading ones splits a word into quotient and remainder by a power of
two, a xorshift step never annuls a word, and disjoint bits are joined by
addition. -/
namespace Bitmask

/-- The mask of all but the lowest `k` bits. -/
def leading (w k : Nat) : BitVec w := BitVec.allOnes w <<< k

section Leading

variable {w k : Nat} (hk : k ≤ w) (x y : BitVec w)
include hk

omit hk in
theorem not_leading : ~~~leading w k = BitVec.ofNat w (2 ^ k - 1) := by
  refine BitVec.eq_of_getLsbD_eq fun i hi => ?_
  simp only [leading, BitVec.getLsbD_not, BitVec.getLsbD_shiftLeft, BitVec.getLsbD_allOnes,
    BitVec.getLsbD_ofNat, Nat.testBit_two_pow_sub_one, hi, decide_true, Bool.true_and]
  by_cases low : i < k
  · simp [low]
  · simp [low]
    omega

theorem toNat_not_leading : (~~~leading w k).toNat = 2 ^ k - 1 := by
  rw [not_leading, BitVec.toNat_ofNat]
  have le : 2 ^ k ≤ 2 ^ w := Nat.pow_le_pow_right (by decide) hk
  have pos : 0 < 2 ^ k := Nat.two_pow_pos k
  exact Nat.mod_eq_of_lt (by omega)

theorem toNat_leading : (leading w k).toNat = 2 ^ w - 2 ^ k := by
  have whole := toNat_not_leading hk
  rw [BitVec.toNat_not] at whole
  have le : 2 ^ k ≤ 2 ^ w := Nat.pow_le_pow_right (by decide) hk
  have pos : 0 < 2 ^ k := Nat.two_pow_pos k
  have bound := (leading w k).isLt
  omega

/-- What a mask leaves out is the remainder. -/
theorem toNat_and_not_leading : (x &&& ~~~leading w k).toNat = x.toNat % 2 ^ k := by
  rw [BitVec.toNat_and, toNat_not_leading hk, Nat.and_two_pow_sub_one_eq_mod]

omit hk in
/-- What it keeps is the quotient. -/
theorem toNat_and_leading : (x &&& leading w k).toNat = x.toNat / 2 ^ k * 2 ^ k := by
  have shifted : x &&& leading w k = (x >>> k) <<< k := by
    refine BitVec.eq_of_getLsbD_eq fun i hi => ?_
    simp only [leading, BitVec.getLsbD_and, BitVec.getLsbD_shiftLeft, BitVec.getLsbD_allOnes,
      BitVec.getLsbD_ushiftRight, hi, decide_true, Bool.true_and]
    by_cases low : i < k
    · simp [low]
    · have back : k + (i - k) = i := by omega
      have inside : i - k < w := by omega
      simp [low, back, inside]
  rw [shifted, BitVec.toNat_shiftLeft, BitVec.toNat_ushiftRight, Nat.shiftRight_eq_div_pow,
    Nat.shiftLeft_eq]
  exact Nat.mod_eq_of_lt (Nat.lt_of_le_of_lt (Nat.div_mul_le_self _ _) x.isLt)

omit hk in
theorem and_leading_eq_iff :
    x &&& leading w k = y &&& leading w k ↔ x.toNat / 2 ^ k = y.toNat / 2 ^ k := by
  rw [← BitVec.toNat_inj, toNat_and_leading, toNat_and_leading]
  exact Nat.mul_left_inj (Nat.two_pow_pos k).ne'

end Leading

/-! ## Xorshift steps -/

section Xorshift

variable {w k : Nat} (pos : 0 < k) {x : BitVec w}
include pos

/-- A word is its own shift only if its bits vanish from the lowest up. -/
theorem xor_shiftLeft_ne_zero (nonzero : x ≠ 0) : x ^^^ (x <<< k) ≠ 0 := by
  intro zero
  have own : x = x <<< k := BitVec.xor_eq_zero_iff.mp zero
  have vanish : ∀ i, x.getLsbD i = false := by
    intro i
    induction i using Nat.strongRecOn with
    | ind i ih =>
      rw [own, BitVec.getLsbD_shiftLeft]
      by_cases low : i < k
      · simp [low]
      · simp [ih (i - k) (by omega)]
  refine nonzero (BitVec.eq_of_getLsbD_eq fun i _ => ?_)
  rw [vanish i]
  exact BitVec.getLsbD_zero.symm

/-- A shift to the right makes a nonzero word smaller. -/
theorem xor_shiftRight_ne_zero (nonzero : x ≠ 0) : x ^^^ (x >>> k) ≠ 0 := by
  intro zero
  have own := congrArg BitVec.toNat (BitVec.xor_eq_zero_iff.mp zero)
  rw [BitVec.toNat_ushiftRight, Nat.shiftRight_eq_div_pow] at own
  have positive : 0 < x.toNat := Nat.pos_of_ne_zero fun h => nonzero (BitVec.eq_of_toNat_eq h)
  have smaller : x.toNat / 2 ^ k < x.toNat :=
    Nat.div_lt_self positive (Nat.one_lt_two_pow (by omega))
  omega

end Xorshift

/-! ## Packing -/

/-- Bits below those of a multiple are added to it. -/
theorem or_eq_add {x y k : Nat} (hx : 2 ^ k ∣ x) (hy : y < 2 ^ k) : x ||| y = x + y := by
  obtain ⟨q, rfl⟩ := hx
  exact (Nat.two_pow_add_eq_or_of_lt hy q).symm

/-- Four octets in their places. -/
theorem pack_octets {a b c d : Nat} (hb : b < 2 ^ 8) (hc : c < 2 ^ 8) (hd : d < 2 ^ 8) :
    a * 2 ^ 24 ||| b * 2 ^ 16 ||| c * 2 ^ 8 ||| d =
      a * 2 ^ 24 + b * 2 ^ 16 + c * 2 ^ 8 + d := by
  have second : a * 2 ^ 24 ||| b * 2 ^ 16 = a * 2 ^ 24 + b * 2 ^ 16 :=
    or_eq_add (k := 24) ⟨a, by omega⟩ (by omega)
  have third : (a * 2 ^ 24 + b * 2 ^ 16) ||| c * 2 ^ 8 = a * 2 ^ 24 + b * 2 ^ 16 + c * 2 ^ 8 :=
    or_eq_add (k := 16) ⟨a * 2 ^ 8 + b, by omega⟩ (by omega)
  rw [second, third]
  exact or_eq_add (k := 8) ⟨a * 2 ^ 16 + b * 2 ^ 8 + c, by omega⟩ (by omega)

end Bitmask
