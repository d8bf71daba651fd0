import Mathlib.Algebra.Group.Int.Defs
import Mathlib.Algebra.Group.Nat.Defs
import Mathlib.Tactic.SplitIfs
import RecordStore.Binary64.Rounding
import RecordStore.Proofs.Ordering

/-!
# Rounding keeps the order of integers

The number nearest to the larger one of two integers is not smaller than the number nearest to the
other one: inside of one power of two because `roundHalfEven` is monotone, and across a power of two
because that power is a number of the format itself.

* `Binary64.roundHalfEven_mono` — rounding a quotient;
* `Binary64.rankOfRatio_mono` — the rank of a natural number;
* `Binary64.ofInt_mono` — integers, in the total order.
-/

namespace RecordStore.Binary64

/-! ### Rounding to a natural number -/

theorem div_le_roundHalfEven (n d : Nat) : n / d ≤ roundHalfEven n d := by
  unfold roundHalfEven
  split_ifs <;> omega

theorem roundHalfEven_le (n d : Nat) : roundHalfEven n d ≤ n / d + 1 := by
  unfold roundHalfEven
  split_ifs <;> omega

/-- A multiple of the step is not moved. -/
theorem roundHalfEven_mul (n : Nat) {d : Nat} (hd : 0 < d) : roundHalfEven (n * d) d = n := by
  rw [roundHalfEven, Nat.mul_mod_left, if_pos (by omega), Nat.mul_div_cancel n hd]

theorem roundHalfEven_mono {m n : Nat} (h : m ≤ n) (d : Nat) :
    roundHalfEven m d ≤ roundHalfEven n d := by
  rcases Nat.lt_or_ge (m / d) (n / d) with less | same
  · calc roundHalfEven m d ≤ m / d + 1 := roundHalfEven_le m d
      _ ≤ n / d := less
      _ ≤ roundHalfEven n d := div_le_roundHalfEven n d
  · -- the quotients are the same, and so the remainders are ordered as the dividends are
    have quotient : m / d = n / d := Nat.le_antisymm (Nat.div_le_div_right h) same
    have remainder : m % d ≤ n % d := by
      have hm := Nat.div_add_mod m d
      have hn := Nat.div_add_mod n d
      rw [quotient] at hm
      omega
    unfold roundHalfEven
    rw [quotient]
    split_ifs <;> omega

/-! ### The rank of a natural number -/

/-- A natural number in steps of the spacing of the numbers around it, where `exponent` is the
exponent of the largest power of two in it. -/
def stepsOf (exponent n : Nat) : Nat :=
  if 52 ≤ exponent then roundHalfEven n (2 ^ (exponent - 52)) else n * 2 ^ (52 - exponent)

theorem stepsOf_mono {m n : Nat} (h : m ≤ n) (exponent : Nat) :
    stepsOf exponent m ≤ stepsOf exponent n := by
  unfold stepsOf
  split
  · exact roundHalfEven_mono h _
  · exact Nat.mul_le_mul_right _ h

/-- A power of two is a number of the format. -/
theorem stepsOf_two_pow (exponent k : Nat) :
    stepsOf exponent (2 ^ (exponent + k)) = 2 ^ (52 + k) := by
  unfold stepsOf
  split
  · next h =>
    have factored : 2 ^ (exponent + k) = 2 ^ (52 + k) * 2 ^ (exponent - 52) := by
      rw [← Nat.pow_add]
      congr 1
      omega
    rw [factored]
    exact roundHalfEven_mul _ (Nat.two_pow_pos _)
  · rw [← Nat.pow_add]
    congr 1
    omega

theorem binaryExponent_one {n : Nat} (hn : n ≠ 0) : binaryExponent n 1 = n.log2 := by
  have log2_one : Nat.log2 1 = 0 := by decide
  have below : powerLeRatio n.log2 n 1 = true := by
    simp [powerLeRatio, Nat.log2_self_le hn]
  simp [binaryExponent, log2_one, below]

theorem rankOfRatio_one {n : Nat} (hn : n ≠ 0) :
    rankOfRatio n 1 = min infinityRank ((n.log2 + 1022) * 2 ^ 52 + stepsOf n.log2 n) := by
  have spaced : spacing n 1 = (n.log2 : Int) - 52 := by
    rw [spacing, binaryExponent_one hn]
    omega
  have place : ((n.log2 : Int) - 52 + 1074).toNat = n.log2 + 1022 := by omega
  rw [rankOfRatio, if_neg hn]
  simp only [spaced, place, stepsOf]
  by_cases h : 52 ≤ n.log2
  · have step : ((n.log2 : Int) - 52).toNat = n.log2 - 52 := by omega
    rw [if_pos (by omega), if_pos h, step, Nat.one_mul]
  · have step : (-((n.log2 : Int) - 52)).toNat = 52 - n.log2 := by omega
    have whole : ∀ k, roundHalfEven k 1 = k := by
      intro k
      simpa using roundHalfEven_mul k Nat.one_pos
    rw [if_neg (by omega), if_neg h, step, whole]

/-- The ranks of natural numbers are ordered as the numbers are. -/
theorem rankOfRatio_mono {m n : Nat} (h : m ≤ n) : rankOfRatio m 1 ≤ rankOfRatio n 1 := by
  by_cases hm : m = 0
  · rw [hm, rankOfRatio, if_pos rfl]
    exact Nat.zero_le _
  have hn : n ≠ 0 := by omega
  have exponents : m.log2 ≤ n.log2 := (Nat.le_log2 hn).2 (Nat.le_trans (Nat.log2_self_le hm) h)
  have above : stepsOf m.log2 m ≤ 2 ^ 53 := by
    rw [← stepsOf_two_pow m.log2 1]
    exact stepsOf_mono (Nat.le_of_lt Nat.lt_log2_self) _
  have below : 2 ^ 52 ≤ stepsOf n.log2 n := by
    rw [← stepsOf_two_pow n.log2 0]
    exact stepsOf_mono (Nat.log2_self_le hn) _
  rw [rankOfRatio_one hm, rankOfRatio_one hn]
  -- the steps of a number fill one binade, and a larger exponent begins with the next one
  rcases Nat.lt_or_ge m.log2 n.log2 with less | same
  · omega
  · have mono := stepsOf_mono h n.log2
    rw [Nat.le_antisymm exponents same]
    omega

/-- The numbers nearest to integers are ordered as the integers are. -/
theorem ofInt_mono {i j : Int} (h : i ≤ j) : (ofInt i).totalKey ≤ (ofInt j).totalKey := by
  have key (k : Int) : (ofInt k).totalKey =
      if k < 0 then -((min (rankOfRatio k.natAbs 1) infinityRank : Nat) : Int) - 1
      else ((min (rankOfRatio k.natAbs 1) infinityRank : Nat) : Int) := by
    by_cases negative : k < 0 <;> simp [ofInt, ofRatio, ofRank, totalKey, negative]
  rw [key, key]
  -- magnitudes are rounded, so that below zero the order of the ranks is turned round
  by_cases hi : i < 0
  · by_cases hj : j < 0
    · have := rankOfRatio_mono (show j.natAbs ≤ i.natAbs by omega)
      rw [if_pos hi, if_pos hj]
      omega
    · rw [if_pos hi, if_neg hj]
      omega
  · have := rankOfRatio_mono (show i.natAbs ≤ j.natAbs by omega)
    rw [if_neg hi, if_neg (by omega)]
    omega

/-- An integer of 64 bits is rounded to a finite number. -/
theorem isFinite_ofInt {i : Int} (small : i.natAbs ≤ 2 ^ 64) : (ofInt i).isFinite = true := by
  have largest : rankOfRatio (2 ^ 64) 1 < infinityRank := by decide +kernel
  have below := Nat.lt_of_le_of_lt (rankOfRatio_mono small) largest
  simp only [ofInt, ofRatio, ofRank, isFinite, bne_iff_ne]
  omega

end RecordStore.Binary64
