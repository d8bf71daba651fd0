import Mathlib.Order.Monotone.Basic
import RecordStore.Proofs.Binary64.Rounding

/-!
# Between the numbers of the format

Rounding moves an integer to a number of the format, but never past another one. So a comparison
with a number of the format has the same result before and after rounding, as long as the two do not
become equal.

* `Binary64.scaled_lt_scaled_iff` — ranks count the numbers upwards;
* `Binary64.rankOfRatio_le`, `Binary64.le_rankOfRatio` — a natural number is not rounded past a
  number of the format;
* `Binary64.compare_units` — comparison of an integer with a number of the format;
* `Binary64.units_intRank` — integers that rounding does not change.
-/

namespace RecordStore.Binary64

/-! ### The numbers in ascending order -/

/-- The binade that begins with `2 ^ e`: its numbers are counted from `2 ^ 52` to `2 ^ 53`. -/
theorem scaled_binade {e s : Nat} (low : 2 ^ 52 ≤ s) (high : s ≤ 2 ^ 53) :
    scaled ((e + 1022) * 2 ^ 52 + s) = s * 2 ^ (e + 1022) := by
  unfold scaled
  rw [if_neg (by omega)]
  rcases Nat.lt_or_ge s (2 ^ 53) with inside | last
  · have quotient : ((e + 1022) * 2 ^ 52 + s) / 2 ^ 52 - 1 = e + 1022 := by omega
    have remainder : 2 ^ 52 + ((e + 1022) * 2 ^ 52 + s) % 2 ^ 52 = s := by omega
    rw [quotient, remainder]
  · -- the end of the binade is the beginning of the next one
    have quotient : ((e + 1022) * 2 ^ 52 + s) / 2 ^ 52 - 1 = e + 1022 + 1 := by omega
    have remainder : 2 ^ 52 + ((e + 1022) * 2 ^ 52 + s) % 2 ^ 52 = 2 ^ 52 := by omega
    have whole : s = 2 ^ 52 * 2 := by omega
    rw [quotient, remainder, whole, Nat.pow_succ 2 (e + 1022), Nat.mul_assoc, Nat.mul_comm 2]

theorem scaled_lt_scaled_succ (r : Nat) : scaled r < scaled (r + 1) := by
  unfold scaled
  by_cases small : r + 1 < 2 ^ 52
  · rw [if_pos small, if_pos (by omega)]
    omega
  by_cases first : r < 2 ^ 52
  · have quotient : (r + 1) / 2 ^ 52 - 1 = 0 := by omega
    rw [if_pos first, if_neg small, quotient]
    omega
  rw [if_neg first, if_neg small]
  have power : 0 < 2 ^ (r / 2 ^ 52 - 1) := Nat.two_pow_pos _
  by_cases last : r % 2 ^ 52 + 1 < 2 ^ 52
  · have quotient : (r + 1) / 2 ^ 52 - 1 = r / 2 ^ 52 - 1 := by omega
    have remainder : (r + 1) % 2 ^ 52 = r % 2 ^ 52 + 1 := by omega
    rw [quotient, remainder]
    exact Nat.mul_lt_mul_of_pos_right (by omega) power
  · have quotient : (r + 1) / 2 ^ 52 - 1 = r / 2 ^ 52 - 1 + 1 := by omega
    have remainder : (r + 1) % 2 ^ 52 = 0 := by omega
    rw [quotient, remainder, Nat.pow_succ 2 (r / 2 ^ 52 - 1), Nat.mul_comm _ 2, ← Nat.mul_assoc]
    exact Nat.mul_lt_mul_of_pos_right (by omega) power

/-- Ranks count the numbers upwards. -/
theorem scaled_lt_scaled_iff {a b : Nat} : scaled a < scaled b ↔ a < b :=
  (strictMono_nat_of_lt_succ scaled_lt_scaled_succ).lt_iff_lt

theorem scaled_le_scaled_iff {a b : Nat} : scaled a ≤ scaled b ↔ a ≤ b :=
  (strictMono_nat_of_lt_succ scaled_lt_scaled_succ).le_iff_le

/-! ### Natural numbers -/

theorem stepsOf_bounds {n : Nat} (hn : n ≠ 0) :
    2 ^ 52 ≤ stepsOf n.log2 n ∧ stepsOf n.log2 n ≤ 2 ^ 53 := by
  constructor
  · rw [← stepsOf_two_pow n.log2 0]
    exact stepsOf_mono (Nat.log2_self_le hn) _
  · rw [← stepsOf_two_pow n.log2 1]
    exact stepsOf_mono (Nat.le_of_lt Nat.lt_log2_self) _

/-- The steps of a number that is not above a whole number of steps. -/
theorem stepsOf_le {exponent n t : Nat} (h : n * 2 ^ 52 ≤ t * 2 ^ exponent) :
    stepsOf exponent n ≤ t := by
  unfold stepsOf
  split
  · next wide =>
    have power : 2 ^ exponent = 2 ^ (exponent - 52) * 2 ^ 52 := by
      rw [← Nat.pow_add, Nat.sub_add_cancel wide]
    rw [power, ← Nat.mul_assoc] at h
    have below : n ≤ t * 2 ^ (exponent - 52) := Nat.le_of_mul_le_mul_right h (Nat.two_pow_pos 52)
    calc roundHalfEven n (2 ^ (exponent - 52))
      _ ≤ roundHalfEven (t * 2 ^ (exponent - 52)) (2 ^ (exponent - 52)) :=
        roundHalfEven_mono below _
      _ = t := roundHalfEven_mul t (Nat.two_pow_pos _)
  · next narrow =>
    have power : 2 ^ 52 = 2 ^ (52 - exponent) * 2 ^ exponent := by
      rw [← Nat.pow_add, Nat.sub_add_cancel (Nat.le_of_not_le narrow)]
    rw [power, ← Nat.mul_assoc] at h
    exact Nat.le_of_mul_le_mul_right h (Nat.two_pow_pos exponent)

/-- The steps of a number that is not below a whole number of steps. -/
theorem le_stepsOf {exponent n t : Nat} (h : t * 2 ^ exponent ≤ n * 2 ^ 52) :
    t ≤ stepsOf exponent n := by
  unfold stepsOf
  split
  · next wide =>
    have power : 2 ^ exponent = 2 ^ (exponent - 52) * 2 ^ 52 := by
      rw [← Nat.pow_add, Nat.sub_add_cancel wide]
    rw [power, ← Nat.mul_assoc] at h
    have above : t * 2 ^ (exponent - 52) ≤ n := Nat.le_of_mul_le_mul_right h (Nat.two_pow_pos 52)
    calc t = roundHalfEven (t * 2 ^ (exponent - 52)) (2 ^ (exponent - 52)) :=
          (roundHalfEven_mul t (Nat.two_pow_pos _)).symm
      _ ≤ roundHalfEven n (2 ^ (exponent - 52)) := roundHalfEven_mono above _
  · next narrow =>
    have power : 2 ^ 52 = 2 ^ (52 - exponent) * 2 ^ exponent := by
      rw [← Nat.pow_add, Nat.sub_add_cancel (Nat.le_of_not_le narrow)]
    rw [power, ← Nat.mul_assoc] at h
    exact Nat.le_of_mul_le_mul_right h (Nat.two_pow_pos exponent)

/-- What one is, on the scale on which the smallest positive number is one. -/
def perOne : Nat := 2 ^ 1074

theorem perOne_eq : perOne = 2 ^ 1022 * 2 ^ 52 := by decide +kernel

theorem perOne_pos : 0 < perOne := by decide +kernel

/-- The numbers of a binade in units of one, which are fractions of `2 ^ 52`. -/
theorem scaled_mul_eq {e s : Nat} (low : 2 ^ 52 ≤ s) (high : s ≤ 2 ^ 53) :
    scaled ((e + 1022) * 2 ^ 52 + s) * 2 ^ 52 = s * 2 ^ e * perOne := by
  rw [scaled_binade low high, perOne_eq, Nat.pow_add, Nat.mul_assoc s, Nat.mul_assoc, Nat.mul_assoc]

/-- A number of a binade compares with a natural number as its steps do. -/
theorem scaled_le_mul_iff {n e s : Nat} (low : 2 ^ 52 ≤ s) (high : s ≤ 2 ^ 53) :
    scaled ((e + 1022) * 2 ^ 52 + s) ≤ n * perOne ↔ s * 2 ^ e ≤ n * 2 ^ 52 := by
  rw [← Nat.mul_le_mul_right_iff (Nat.two_pow_pos 52), scaled_mul_eq low high,
    Nat.mul_right_comm n]
  exact Nat.mul_le_mul_right_iff perOne_pos

theorem mul_le_scaled_iff {n e s : Nat} (low : 2 ^ 52 ≤ s) (high : s ≤ 2 ^ 53) :
    n * perOne ≤ scaled ((e + 1022) * 2 ^ 52 + s) ↔ n * 2 ^ 52 ≤ s * 2 ^ e := by
  rw [← Nat.mul_le_mul_right_iff (Nat.two_pow_pos 52), scaled_mul_eq low high,
    Nat.mul_right_comm n]
  exact Nat.mul_le_mul_right_iff perOne_pos

/-- A natural number of 64 bits is rounded inside of its binade. -/
theorem rankOfRatio_eq {n : Nat} (hn : n ≠ 0) (small : n < 2 ^ 64) :
    rankOfRatio n 1 = (n.log2 + 1022) * 2 ^ 52 + stepsOf n.log2 n := by
  have exponent : n.log2 < 64 := (Nat.log2_lt hn).2 small
  have steps := (stepsOf_bounds hn).2
  rw [rankOfRatio_one hn]
  unfold infinityRank
  omega

/-- A number of the format that is not below a natural number is not below the rounded one. -/
theorem rankOfRatio_le {n r : Nat} (small : n < 2 ^ 64) (h : n * perOne ≤ scaled r) :
    rankOfRatio n 1 ≤ r := by
  by_cases hn : n = 0
  · rw [hn, rankOfRatio, if_pos rfl]
    exact Nat.zero_le r
  obtain ⟨low, high⟩ := stepsOf_bounds hn
  rw [rankOfRatio_eq hn small]
  -- it does not lie below the binade of the natural number, and above it there is nothing to show
  have start : (n.log2 + 1022) * 2 ^ 52 + 2 ^ 52 ≤ r := by
    rw [← scaled_le_scaled_iff]
    refine Nat.le_trans ((scaled_le_mul_iff (Nat.le_refl _) (by omega)).2 ?_) h
    rw [Nat.mul_comm]
    exact Nat.mul_le_mul_right _ (Nat.log2_self_le hn)
  rcases Nat.lt_or_ge r ((n.log2 + 1022) * 2 ^ 52 + 2 ^ 53) with inside | beyond
  · obtain ⟨t, rfl⟩ : ∃ t, r = (n.log2 + 1022) * 2 ^ 52 + t :=
      ⟨r - (n.log2 + 1022) * 2 ^ 52, by omega⟩
    have steps := stepsOf_le ((mul_le_scaled_iff (by omega) (by omega)).1 h)
    omega
  · omega

/-- A number of the format that is not above a natural number is not above the rounded one. -/
theorem le_rankOfRatio {n r : Nat} (small : n < 2 ^ 64) (h : scaled r ≤ n * perOne) :
    r ≤ rankOfRatio n 1 := by
  by_cases hn : n = 0
  · rw [hn, Nat.zero_mul, ← show scaled 0 = 0 from rfl, scaled_le_scaled_iff] at h
    exact Nat.le_trans h (Nat.zero_le _)
  obtain ⟨low, high⟩ := stepsOf_bounds hn
  rw [rankOfRatio_eq hn small]
  have stop : r ≤ (n.log2 + 1022) * 2 ^ 52 + 2 ^ 53 := by
    rw [← scaled_le_scaled_iff]
    refine Nat.le_trans h ((mul_le_scaled_iff (by omega) (Nat.le_refl _)).2 ?_)
    have above : n < 2 * 2 ^ n.log2 := by
      have := @Nat.lt_log2_self n
      omega
    omega
  rcases Nat.lt_or_ge r ((n.log2 + 1022) * 2 ^ 52 + 2 ^ 52) with before | inside
  · omega
  · obtain ⟨t, rfl⟩ : ∃ t, r = (n.log2 + 1022) * 2 ^ 52 + t :=
      ⟨r - (n.log2 + 1022) * 2 ^ 52, by omega⟩
    have steps := le_stepsOf ((scaled_le_mul_iff (by omega) (by omega)).1 h)
    omega

/-- A natural number of at most 53 bits is a number of the format. -/
theorem scaled_rankOfRatio {n : Nat} (small : n ≤ 2 ^ 53) :
    scaled (rankOfRatio n 1) = n * perOne := by
  by_cases hn : n = 0
  · rw [hn, rankOfRatio, if_pos rfl, Nat.zero_mul]
    rfl
  have exact : stepsOf n.log2 n * 2 ^ n.log2 = n * 2 ^ 52 := by
    rcases Nat.lt_or_ge n (2 ^ 53) with less | full
    · have exponent : n.log2 ≤ 52 := by
        have := (Nat.log2_lt hn).2 less
        omega
      rw [stepsOf]
      split
      · next wide =>
        have whole : n.log2 = 52 := Nat.le_antisymm exponent wide
        rw [whole, Nat.sub_self]
        have := roundHalfEven_mul n Nat.one_pos
        rw [Nat.mul_one] at this
        rw [Nat.pow_zero, this]
      · rw [Nat.mul_assoc, ← Nat.pow_add, Nat.sub_add_cancel exponent]
    · obtain rfl : n = 2 ^ 53 := Nat.le_antisymm small full
      have exponent : Nat.log2 (2 ^ 53) = 53 := Nat.log2_two_pow
      have steps : stepsOf 53 (2 ^ 53) = 2 ^ 52 := stepsOf_two_pow 53 0
      rw [exponent, steps, Nat.mul_comm]
  obtain ⟨low, high⟩ := stepsOf_bounds hn
  have below := (scaled_le_mul_iff low high).2 exact.le
  have above := (mul_le_scaled_iff low high).2 exact.ge
  rw [rankOfRatio_eq hn (by omega)]
  exact Nat.le_antisymm below above

/-! ### Integers -/

/-- The odd extension of a function on the natural numbers to the integers. -/
def oddExtension (f : Nat → Nat) (i : Int) : Int :=
  if i < 0 then -(f i.natAbs : Int) else f i.natAbs

theorem oddExtension_natCast (f : Nat → Nat) (n : Nat) : oddExtension f n = f n := by
  rw [oddExtension, if_neg (by omega), Int.natAbs_natCast]

theorem oddExtension_neg {f : Nat → Nat} (zero : f 0 = 0) (i : Int) :
    oddExtension f (-i) = -oddExtension f i := by
  unfold oddExtension
  rw [Int.natAbs_neg]
  rcases Int.lt_trichotomy i 0 with negative | rfl | positive
  · rw [if_pos negative, if_neg (by omega), Int.neg_neg]
  · simp [zero]
  · rw [if_pos (by omega), if_neg (by omega)]

/-- The number of a signed rank on the scale on which the smallest positive number is one. -/
def units (k : Int) : Int := oddExtension scaled k

theorem units_natCast (r : Nat) : units r = scaled r := oddExtension_natCast scaled r

theorem units_neg (k : Int) : units (-k) = -units k := oddExtension_neg (f := scaled) rfl k

theorem units_lt_units {a b : Int} (less : a < b) : units a < units b := by
  have zero : scaled 0 = 0 := rfl
  unfold units oddExtension
  by_cases ha : a < 0
  · by_cases hb : b < 0
    · have := scaled_lt_scaled_iff.2 (show b.natAbs < a.natAbs by omega)
      rw [if_pos ha, if_pos hb]
      omega
    · have := scaled_lt_scaled_iff.2 (show 0 < a.natAbs by omega)
      rw [if_pos ha, if_neg hb]
      omega
  · have := scaled_lt_scaled_iff.2 (show a.natAbs < b.natAbs by omega)
    rw [if_neg ha, if_neg (by omega)]
    omega

/-- Two numbers of the format compare as their signed ranks. -/
theorem compare_units_units (j k : Int) : Ord.compare (units j) (units k) = Ord.compare j k := by
  rcases Int.lt_trichotomy j k with less | rfl | greater
  · rw [Int.compare_eq_lt.2 (units_lt_units less), Int.compare_eq_lt.2 less]
  · rw [Int.compare_eq_eq.2 rfl, Int.compare_eq_eq.2 rfl]
  · rw [Int.compare_eq_gt.2 (units_lt_units greater), Int.compare_eq_gt.2 greater]

/-- The signed rank of the number nearest to an integer. -/
def intRank (i : Int) : Int := oddExtension (rankOfRatio · 1) i

theorem intRank_neg (i : Int) : intRank (-i) = -intRank i := oddExtension_neg rfl i

theorem signedRank?_ofInt (i : Int) : (ofInt i).signedRank? = some (intRank i) := by
  have bounded : min (rankOfRatio i.natAbs 1) infinityRank = rankOfRatio i.natAbs 1 := by
    rw [Nat.min_eq_left]
    unfold rankOfRatio
    split
    · exact Nat.zero_le _
    · exact Nat.min_le_left _ _
  unfold intRank oddExtension
  by_cases negative : i < 0 <;> simp [ofInt, ofRatio, ofRank, signedRank?, negative, bounded]

/-- An integer of 64 bits is not rounded past a number of the format. -/
theorem le_intRank {i k : Int} (small : i.natAbs < 2 ^ 64) (h : units k ≤ i * perOne) :
    k ≤ intRank i := by
  have zero : scaled 0 = 0 := rfl
  have one := perOne_pos
  unfold intRank oddExtension
  dsimp only
  unfold units oddExtension at h
  by_cases hk : k < 0
  · by_cases hi : i < 0
    · rw [if_pos hk] at h
      have : rankOfRatio i.natAbs 1 ≤ k.natAbs := by
        refine rankOfRatio_le small ?_
        have magnitude : i = -(i.natAbs : Int) := by omega
        rw [magnitude, Int.neg_mul] at h
        exact_mod_cast Int.neg_le_neg_iff.1 h
      rw [if_pos hi]
      omega
    · rw [if_neg hi]
      omega
  · rw [if_neg hk] at h
    by_cases hi : i < 0
    · have : i * (perOne : Int) < 0 := Int.mul_neg_of_neg_of_pos hi (by omega)
      omega
    · have : k.natAbs ≤ rankOfRatio i.natAbs 1 := by
        refine le_rankOfRatio small ?_
        have magnitude : i = (i.natAbs : Int) := by omega
        rw [magnitude] at h
        exact_mod_cast h
      rw [if_neg hi]
      omega

theorem intRank_le {i k : Int} (small : i.natAbs < 2 ^ 64) (h : i * perOne ≤ units k) :
    intRank i ≤ k := by
  have turned : units (-k) ≤ -i * perOne := by
    rw [units_neg, Int.neg_mul]
    exact Int.neg_le_neg h
  have := le_intRank (by omega) turned
  rw [intRank_neg] at this
  omega

/-- An integer compares with a number of the format as its rounded value does, unless the rounded
value is that number. -/
theorem compare_units {i k : Int} (small : i.natAbs < 2 ^ 64) (apart : intRank i ≠ k) :
    Ord.compare (i * perOne) (units k) = Ord.compare (intRank i) k := by
  rcases Int.lt_or_gt_of_ne apart with less | greater
  · have exact : i * perOne < units k := by
      by_contra h
      have := le_intRank small (Int.not_lt.1 h)
      omega
    rw [Int.compare_eq_lt.2 exact, Int.compare_eq_lt.2 less]
  · have exact : units k < i * perOne := by
      by_contra h
      have := intRank_le small (Int.not_lt.1 h)
      omega
    rw [Int.compare_eq_gt.2 exact, Int.compare_eq_gt.2 greater]

/-- An integer of at most 53 bits is a number of the format. -/
theorem units_intRank {i : Int} (small : i.natAbs ≤ 2 ^ 53) : units (intRank i) = i * perOne := by
  have exact := scaled_rankOfRatio small
  have zero : scaled 0 = 0 := rfl
  by_cases negative : i < 0
  · have magnitude : i = -(i.natAbs : Int) := by omega
    rw [intRank, oddExtension, if_pos negative, units_neg, units_natCast, exact, Int.natCast_mul, ← Int.neg_mul,
      ← magnitude]
  · have magnitude : i = (i.natAbs : Int) := by omega
    rw [intRank, oddExtension, if_neg negative, units_natCast, exact, Int.natCast_mul, ← magnitude]

end RecordStore.Binary64
