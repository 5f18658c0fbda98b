import Automation.Proofs.Rounding

/-!
The double nearest to an integer. Doubles are multiples of the least positive one, so they are compared
with an integer by counting in its steps: no finite double is closer to the integer than the one that it
is rounded to, and where another is as close, the one taken is even.
-/
namespace Automation.Double

/-- How many times the least positive double goes into a finite rank. -/
def steps (rank : Nat) : Nat := (parts rank).1 * 2 ^ ((parts rank).2 + 1074).toNat

/-- How many of them make one. -/
def stepsOfOne : Nat := 2 ^ 1074

/-- A finite double, counted in steps of the least positive one. -/
def signedSteps : Double → Int
  | .nan => 0
  | .number negative rank => if negative then -(steps rank : Int) else steps rank

/-- How far a finite double is from an integer, counted in steps of the least positive double. -/
def distance (x : Double) (n : Int) : Nat := (x.signedSteps - n * stepsOfOne).natAbs

/-- The double is finite and no finite double is closer to the integer; where another is as close, this one
is even. -/
structure IsNearest (x : Double) (n : Int) : Prop where
  finite : x.isFinite = true
  least : ∀ y : Double, y.isFinite = true → x.distance n ≤ y.distance n
  even : ∀ y : Double, y.isFinite = true → y.distance n = x.distance n → y.signedSteps ≠ x.signedSteps →
    ∃ negative rank, x = .number negative rank ∧ rank % 2 = 0

section Quotients

variable {n d : Nat}

/-- Rounding goes down from below the middle and up from above it, and from the middle to the even side. -/
theorem roundHalfEven_cases (n d : Nat) :
    (roundHalfEven n d = n / d ∧
      (2 * (n % d) < d ∨ 2 * (n % d) = d ∧ n / d % 2 = 0)) ∨
    (roundHalfEven n d = n / d + 1 ∧
      (d < 2 * (n % d) ∨ 2 * (n % d) = d ∧ n / d % 2 = 1)) := by
  simp only [roundHalfEven]
  split_ifs <;> omega

/-- No multiple is closer to a number than the one that it is rounded to, which is even where another is as
close. -/
theorem roundHalfEven_nearest (positive : 0 < d) (k : Nat) :
    let chosen := ((roundHalfEven n d * d : Nat) - (n : Int)).natAbs
    let other := ((k * d : Nat) - (n : Int)).natAbs
    chosen ≤ other ∧ (other = chosen → k ≠ roundHalfEven n d → roundHalfEven n d % 2 = 0) := by
  have whole : n / d * d + n % d = n := Nat.div_add_mod' n d
  have rest : n % d < d := Nat.mod_lt n positive
  have next : (n / d + 1) * d = n / d * d + d := Nat.succ_mul _ d
  have sides : k = n / d ∨ k = n / d + 1 ∨ k * d + d ≤ n / d * d ∨ n / d * d + d + d ≤ k * d := by
    rcases Nat.lt_trichotomy k (n / d) with below | is | above
    · have := Nat.mul_le_mul_right d below
      rw [Nat.succ_mul] at this
      exact .inr (.inr (.inl this))
    · exact .inl is
    · rcases Nat.eq_or_lt_of_le above with is | above
      · exact .inr (.inl is.symm)
      · have := Nat.mul_le_mul_right d above
        rw [Nat.succ_mul, Nat.succ_mul] at this
        exact .inr (.inr (.inr this))
  intro chosen other
  simp only [chosen, other]
  rcases roundHalfEven_cases n d with ⟨is, side⟩ | ⟨is, side⟩ <;> rw [is]
  · rcases sides with rfl | rfl | below | above <;> omega
  · rcases sides with rfl | rfl | below | above <;> omega

end Quotients

theorem steps_of_lt {rank : Nat} (small : rank < binade) : steps rank = rank := by
  simp [steps, parts, small]

/-- Behind the first binade of normal numbers the steps of each are twice those of the one before. -/
theorem steps_binade (e : Nat) {f : Nat} (inside : f < binade) :
    steps ((e + 1) * binade + f) = (binade + f) * 2 ^ e := by
  have positive : 0 < binade := by decide
  have large : ¬(e + 1) * binade + f < binade := by
    rw [Nat.succ_mul]
    omega
  have rest : ((e + 1) * binade + f) % binade = f := by
    rw [Nat.mul_comm, Nat.mul_add_mod, Nat.mod_eq_of_lt inside]
  have place : ((e + 1) * binade + f) / binade = e + 1 := by
    rw [Nat.mul_comm, Nat.mul_add_div positive, Nat.div_eq_of_lt inside, Nat.add_zero]
  have exponent : (((e + 1 : Nat) : Int) - 1075 + 1074).toNat = e := by omega
  simp only [steps, parts, if_neg large, rest, place, exponent]

/-- The place of a mantissa in its binade, or at the start of the next one if it was rounded up to it. -/
theorem steps_mantissa (e : Nat) {q : Nat} (low : 2 ^ 52 ≤ q) (high : q ≤ 2 ^ 53) :
    steps (e * binade + q) = q * 2 ^ e := by
  have size : binade = 2 ^ 52 := rfl
  rcases Nat.eq_or_lt_of_le high with rfl | below
  · have place : e * binade + 2 ^ 53 = (e + 1 + 1) * binade + 0 := by
      rw [Nat.succ_mul, Nat.succ_mul, size]
      omega
    rw [place, steps_binade (e + 1) (by decide), size, Nat.pow_succ 2 e]
    omega
  · have place : e * binade + q = (e + 1) * binade + (q - 2 ^ 52) := by
      rw [Nat.succ_mul, size]
      omega
    rw [place, steps_binade e (by rw [size]; omega), size, Nat.add_sub_cancel' low]

/-- A rank is below a binade, or what it stands for is a multiple of the step there. -/
theorem steps_cases (e rank : Nat) : steps rank < 2 ^ 52 * 2 ^ e ∨ ∃ k, steps rank = k * 2 ^ e := by
  have size : binade = 2 ^ 52 := rfl
  by_cases small : rank < binade
  · rcases Nat.eq_zero_or_pos e with rfl | positive
    · exact .inr ⟨rank, by rw [steps_of_lt small, Nat.pow_zero, Nat.mul_one]⟩
    · left
      calc steps rank = rank := steps_of_lt small
        _ < 2 ^ 52 := small
        _ ≤ 2 ^ 52 * 2 ^ e := Nat.le_mul_of_pos_right _ (Nat.two_pow_pos e)
  · obtain ⟨b, f, inside, rfl⟩ : ∃ b f, f < binade ∧ rank = (b + 1) * binade + f := by
      refine ⟨rank / binade - 1, rank % binade, Nat.mod_lt _ (by decide), ?_⟩
      have first : 1 ≤ rank / binade := (Nat.le_div_iff_mul_le (by decide)).mpr (by omega)
      rw [Nat.sub_add_cancel first, Nat.div_add_mod']
    rw [steps_binade b inside]
    rcases Nat.lt_or_ge b e with below | above
    · left
      calc (binade + f) * 2 ^ b < 2 ^ 53 * 2 ^ b :=
            Nat.mul_lt_mul_of_pos_right (by omega) (Nat.two_pow_pos b)
        _ = 2 ^ 52 * 2 ^ (b + 1) := by
            rw [Nat.pow_succ 2 b]
            omega
        _ ≤ 2 ^ 52 * 2 ^ e := Nat.mul_le_mul_left _ (Nat.pow_le_pow_right (by decide) below)
    · right
      refine ⟨(binade + f) * 2 ^ (b - e), ?_⟩
      rw [Nat.mul_assoc, ← Nat.pow_add, Nat.sub_add_cancel above]

/-- In the binade of an integer mantissas are compared with it as it is itself scaled to one. -/
theorem natAbs_mantissa (n e k : Nat) :
    ((k * 2 ^ (e + 1022) : Nat) - (n * stepsOfOne : Nat) : Int).natAbs =
      ((k * 2 ^ (e - 52) : Nat) - (n * 2 ^ (52 - e) : Nat) : Int).natAbs * 2 ^ (1074 - (52 - e)) := by
  have unit : 2 ^ (e + 1022) = 2 ^ (e - 52) * 2 ^ (1074 - (52 - e)) := by
    rw [← Nat.pow_add]
    exact congrArg (2 ^ ·) (by omega)
  have one : stepsOfOne = 2 ^ (52 - e) * 2 ^ (1074 - (52 - e)) := by
    rw [stepsOfOne, ← Nat.pow_add]
    exact congrArg (2 ^ ·) (by omega)
  rw [unit, one, ← Nat.mul_assoc, ← Nat.mul_assoc, Nat.cast_mul, Nat.cast_mul (n * _), ← Int.sub_mul,
    Int.natAbs_mul, Int.natAbs_natCast]

/-- An integer is not below the binade of its logarithm. -/
theorem le_mul_stepsOfOne {n : Nat} (some : n ≠ 0) : 2 ^ 52 * 2 ^ (n.log2 + 1022) ≤ n * stepsOfOne :=
  calc 2 ^ 52 * 2 ^ (n.log2 + 1022) = 2 ^ n.log2 * stepsOfOne := by
        rw [stepsOfOne, ← Nat.pow_add, ← Nat.pow_add]
        exact congrArg (2 ^ ·) (by omega)
    _ ≤ n * stepsOfOne := Nat.mul_le_mul_right _ (Nat.log2_self_le some)

/-- The rank of an integer is the nearest among all finite ranks, and even where another is as near. -/
theorem steps_rankOfRatio_nearest {n : Nat} (finite : rankOfRatio n 1 < infinityRank) (rank : Nat) :
    let chosen := (steps (rankOfRatio n 1) - (n * stepsOfOne : Nat) : Int).natAbs
    let other := (steps rank - (n * stepsOfOne : Nat) : Int).natAbs
    chosen ≤ other ∧ (other = chosen → steps rank ≠ steps (rankOfRatio n 1) → rankOfRatio n 1 % 2 = 0) := by
  intro chosen other
  simp only [chosen, other]
  by_cases none : n = 0
  · have zero : rankOfRatio 0 1 = 0 := if_pos rfl
    rw [none, zero, steps_of_lt (by decide : 0 < binade), Nat.zero_mul]
    omega
  obtain ⟨low, high⟩ := mantissa_bounds none
  have place := rankOfRatio_one none
  have nearest := roundHalfEven_nearest (n := n * 2 ^ (52 - n.log2)) (Nat.two_pow_pos (n.log2 - 52))
  generalize roundHalfEven (n * 2 ^ (52 - n.log2)) (2 ^ (n.log2 - 52)) = q at low high place nearest
  have inside : rankOfRatio n 1 = (n.log2 + 1022) * binade + q := by omega
  have parity : rankOfRatio n 1 % 2 = q % 2 := by
    rw [inside, show binade = 2 ^ 51 * 2 from rfl, ← Nat.mul_assoc, Nat.add_comm,
      Nat.add_mul_mod_self_right]
  have least : ∀ k : Nat, ((q * 2 ^ (n.log2 + 1022) : Nat) - (n * stepsOfOne : Nat) : Int).natAbs ≤
      ((k * 2 ^ (n.log2 + 1022) : Nat) - (n * stepsOfOne : Nat) : Int).natAbs := by
    intro k
    rw [natAbs_mantissa, natAbs_mantissa]
    exact Nat.mul_le_mul_right _ (nearest k).1
  rw [parity, inside, steps_mantissa _ low high]
  rcases steps_cases (n.log2 + 1022) rank with below | ⟨k, is⟩
  · -- a smaller rank is further away than the least of the binade, which is no nearer than the mantissa
    have closer := least (2 ^ 52)
    have floor := le_mul_stepsOfOne none
    have above := Nat.mul_le_mul_right (2 ^ (n.log2 + 1022)) low
    generalize n * stepsOfOne = target at closer floor ⊢
    generalize 2 ^ (n.log2 + 1022) = unit at closer floor above below ⊢
    omega
  · rw [is]
    refine ⟨least k, fun same apart => (nearest k).2 ?_ fun equal => apart (by rw [equal])⟩
    rw [natAbs_mantissa, natAbs_mantissa] at same
    exact Nat.eq_of_mul_eq_mul_right (Nat.two_pow_pos _) same

/-- A double of the sign of an integer is as far from it as their magnitudes are apart, and one of the other
sign as both together. -/
theorem distance_eq (negative : Bool) (rank : Nat) (n : Int) : (number negative rank).distance n =
    if negative = decide (n < 0) then (steps rank - (n.natAbs * stepsOfOne : Nat) : Int).natAbs
    else steps rank + n.natAbs * stepsOfOne := by
  simp only [distance, signedSteps]
  generalize stepsOfOne = unit
  obtain ⟨m, rfl | rfl⟩ := Int.eq_nat_or_neg n
  · have natural : ((m : Int) < 0) = False := by simp
    simp only [natural, decide_false, Int.natAbs_natCast, Nat.cast_mul]
    cases negative <;> simp
    omega
  · rcases Nat.eq_zero_or_pos m with rfl | positive
    · cases negative <;> simp
    · have below : (-(m : Int) < 0) = True := by simpa using positive
      simp only [below, decide_true, Int.natAbs_neg, Int.natAbs_natCast, Int.neg_mul, ← Nat.cast_mul]
      cases negative <;> simp <;> omega

/-- An integer below the middle is rounded to the double nearest to it. -/
theorem isNearest_of_ofInt? {n : Int} {x : Double} (rounded : ofInt? n = some x) : IsNearest x n := by
  simp only [ofInt?, Option.ite_none_right_eq_some, Option.some.injEq] at rounded
  obtain ⟨finite, rfl⟩ := rounded
  have nearest := steps_rankOfRatio_nearest finite
  refine ⟨by simpa [isFinite] using finite, fun y some => ?_, fun y some same apart => ?_⟩
  · cases y with
    | nan => cases some
    | number negative rank =>
      obtain ⟨least, -⟩ := nearest rank
      simp only [distance_eq, if_true]
      split_ifs <;> omega
  · cases y with
    | nan => cases some
    | number negative rank =>
      obtain ⟨least, even⟩ := nearest rank
      refine ⟨_, _, rfl, even ?_ ?_⟩
      · simp only [distance_eq, if_true] at same
        split_ifs at same <;> omega
      · intro equal
        by_cases sign : negative = decide (n < 0)
        · exact apart (by simp only [signedSteps, equal, sign])
        -- of two numbers of one magnitude and unlike sign that are as near, both are zero
        have least := (nearest 0).1
        rw [steps_of_lt (by decide : 0 < binade)] at least
        have zero : steps (rankOfRatio n.natAbs 1) = 0 := by
          rw [distance_eq, distance_eq, if_neg sign, if_pos rfl, equal] at same
          omega
        exact apart (by simp [signedSteps, equal, zero])

end Automation.Double
