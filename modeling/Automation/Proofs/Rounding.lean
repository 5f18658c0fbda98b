import Automation.Number.Double
import Mathlib.Tactic.Ring

/-!
Integers as doubles. An integer has a nearest double that is finite just up to the middle between the
greatest double and the power of two behind it; the middle itself is rounded away.
-/
namespace Automation.Double

/-- The middle between the greatest double and the next power of two. -/
def overflow : Nat := 2 ^ 1024 - 2 ^ 970

theorem le_roundHalfEven (n d : Nat) : n / d ≤ roundHalfEven n d := by
  simp only [roundHalfEven]
  split_ifs <;> omega

theorem roundHalfEven_le (n d : Nat) : roundHalfEven n d ≤ n / d + 1 := by
  simp only [roundHalfEven]
  split_ifs <;> omega

/-- Rounding stays at an odd number only below the middle above it. -/
theorem roundHalfEven_le_odd_iff {n d q : Nat} (odd : q % 2 = 1) (some : 0 < d) :
    roundHalfEven n (2 * d) ≤ q ↔ n < (2 * q + 1) * d := by
  have whole : 2 * d * (n / (2 * d)) + n % (2 * d) = n := Nat.div_add_mod n (2 * d)
  have rest : n % (2 * d) < 2 * d := Nat.mod_lt _ (by omega)
  have least := le_roundHalfEven n (2 * d)
  have most := roundHalfEven_le n (2 * d)
  have middle : (2 * q + 1) * d = 2 * d * q + d := by ring
  rcases Nat.lt_trichotomy (n / (2 * d)) q with below | is | above
  · have step : 2 * d * (n / (2 * d) + 1) ≤ 2 * d * q := Nat.mul_le_mul_left _ below
    rw [Nat.mul_succ] at step
    omega
  · simp only [roundHalfEven, is]
    rw [is] at whole
    split_ifs <;> omega
  · have step : 2 * d * (q + 1) ≤ 2 * d * (n / (2 * d)) := Nat.mul_le_mul_left _ above
    rw [Nat.mul_succ] at step
    omega

theorem floorLog2_one {n : Nat} (some : n ≠ 0) : floorLog2 n 1 = n.log2 := by
  have zero : Nat.log2 1 = 0 := by decide
  have below : 2 ^ n.log2 ≤ n := Nat.log2_self_le some
  simp only [floorLog2, zero, Int.natCast_zero, Int.sub_zero, Int.toNat_natCast, Int.toNat_neg_natCast]
  rw [if_pos]
  simpa using below

/-- The rank of an integer lies in the binade of its logarithm, at the place of its mantissa. -/
theorem rankOfRatio_one {n : Nat} (some : n ≠ 0) : rankOfRatio n 1 =
    min infinityRank ((n.log2 + 1022) * binade +
      roundHalfEven (n * 2 ^ (52 - n.log2)) (2 ^ (n.log2 - 52))) := by
  have exponent : max (-1074) (floorLog2 n 1 - 52) = (n.log2 : Int) - 52 := by
    rw [floorLog2_one some]
    omega
  have place : ((n.log2 : Int) - 52 + 1074).toNat = n.log2 + 1022 := by omega
  have up : (-((n.log2 : Int) - 52)).toNat = 52 - n.log2 := by omega
  have down : ((n.log2 : Int) - 52).toNat = n.log2 - 52 := by omega
  simp only [rankOfRatio, if_neg some, exponent, place, up, down, Nat.one_mul]
  rfl

/-- A mantissa has 53 bits, or it was rounded up to the next power of two. -/
theorem mantissa_bounds {n : Nat} (some : n ≠ 0) :
    2 ^ 52 ≤ roundHalfEven (n * 2 ^ (52 - n.log2)) (2 ^ (n.log2 - 52)) ∧
      roundHalfEven (n * 2 ^ (52 - n.log2)) (2 ^ (n.log2 - 52)) ≤ 2 ^ 53 := by
  have positive : 0 < 2 ^ (n.log2 - 52) := Nat.two_pow_pos _
  have low : 2 ^ 52 * 2 ^ (n.log2 - 52) ≤ n * 2 ^ (52 - n.log2) :=
    calc 2 ^ 52 * 2 ^ (n.log2 - 52) = 2 ^ n.log2 * 2 ^ (52 - n.log2) := by
          rw [← Nat.pow_add, ← Nat.pow_add]
          congr 1
          omega
      _ ≤ n * 2 ^ (52 - n.log2) := Nat.mul_le_mul_right _ (Nat.log2_self_le some)
  have high : n * 2 ^ (52 - n.log2) < 2 ^ 53 * 2 ^ (n.log2 - 52) :=
    calc n * 2 ^ (52 - n.log2) < 2 ^ (n.log2 + 1) * 2 ^ (52 - n.log2) :=
          Nat.mul_lt_mul_of_pos_right Nat.lt_log2_self (Nat.two_pow_pos _)
      _ = 2 ^ 53 * 2 ^ (n.log2 - 52) := by
          rw [← Nat.pow_add, ← Nat.pow_add]
          congr 1
          omega
  exact ⟨((Nat.le_div_iff_mul_le positive).mpr low).trans (le_roundHalfEven _ _),
    (roundHalfEven_le _ _).trans ((Nat.div_lt_iff_lt_mul positive).mpr high)⟩

/-- An integer has a finite double just below the middle. -/
theorem rankOfRatio_one_lt_iff (n : Nat) : rankOfRatio n 1 < infinityRank ↔ n < overflow := by
  -- The powers are kept as multiples of one of them, so that none is ever multiplied out.
  have top := pow_add 2 54 970
  have half := pow_add 2 53 970
  have width := pow_add 2 1 970
  have unit := pow_pos Nat.two_pos 970
  have rank : infinityRank = 2047 * 2 ^ 52 := rfl
  simp only [Nat.reduceAdd] at top half width
  rw [overflow, top]
  generalize 2 ^ 970 = u at top half width unit ⊢
  by_cases none : n = 0
  · have zero : rankOfRatio 0 1 = 0 := if_pos rfl
    rw [none, zero, rank]
    omega
  obtain ⟨low, high⟩ := mantissa_bounds none
  have lower : 2 ^ n.log2 ≤ n := Nat.log2_self_le none
  have upper : n < 2 ^ (n.log2 + 1) := Nat.lt_log2_self
  rw [rankOfRatio_one none, rank, show binade = 2 ^ 52 from rfl]
  rcases Nat.lt_trichotomy n.log2 1023 with below | is | above
  · have small : 2 ^ (n.log2 + 1) ≤ 2 ^ 1023 := pow_le_pow_right₀ (by decide) below
    omega
  · have odd := roundHalfEven_le_odd_iff (n := n) (q := 2 ^ 53 - 1) (by decide) unit
    simp only [is, Nat.reduceSub, width, Nat.pow_zero, Nat.pow_one, Nat.mul_one] at low high ⊢
    omega
  · have large : 2 ^ 1024 ≤ 2 ^ n.log2 := pow_le_pow_right₀ (by decide) above
    omega

theorem ofInt?_eq_none_iff {n : Int} : ofInt? n = none ↔ overflow ≤ n.natAbs := by
  rw [← Nat.not_lt, ← rankOfRatio_one_lt_iff]
  simp [ofInt?]

end Automation.Double
