import RecordStore.Binary64.Basic

/-!
# Rounding to the nearest floating-point number

Every quotient of natural numbers is rounded to the nearest number of the format, a tie to the
number of even rank, and from the middle between the largest number and its successor on to
infinity. On the scale of ranks this is one rule for normal and subnormal numbers alike: with the
spacing `2 ^ e` of the numbers around the quotient, the rank is `(e + 1074) * 2 ^ 52` plus the
quotient counted in steps of that spacing.

* `Binary64.rankOfRatio` — the rank of a quotient;
* `Binary64.ofInt` — an integer;
* `Binary64.ofDecimal` — a decimal number;
* `Binary64.mulRank`, `Binary64.divRank` — product and quotient of two magnitudes.
-/

namespace RecordStore.Binary64

-- the power of the core library, also where monoids have one
attribute [local instance (20000)] instPowNat

/-- The natural number nearest to `n / d`, of two equally near ones the even one. -/
def roundHalfEven (n d : Nat) : Nat :=
  if 2 * (n % d) < d then n / d
  else if d < 2 * (n % d) then n / d + 1
  else if n / d % 2 = 0 then n / d
  else n / d + 1

/-- Whether `2 ^ e ≤ num / den`. -/
def powerLeRatio (e : Int) (num den : Nat) : Bool :=
  if 0 ≤ e then den * 2 ^ e.toNat ≤ num else den ≤ num * 2 ^ (-e).toNat

/-- The largest `e` with `2 ^ e ≤ num / den`, for positive `num` and `den`. -/
def binaryExponent (num den : Nat) : Int :=
  let e := (num.log2 : Int) - (den.log2 : Int)
  if powerLeRatio e num den then e else e - 1

/-- The spacing of the numbers around `num / den`, as an exponent of two. -/
def spacing (num den : Nat) : Int := max (binaryExponent num den - 52) (-1074)

/-- The rank of the number nearest to `num / den`. -/
def rankOfRatio (num den : Nat) : Nat :=
  if num = 0 then 0
  else
    let e := spacing num den
    let steps :=
      if 0 ≤ e then roundHalfEven num (den * 2 ^ e.toNat)
      else roundHalfEven (num * 2 ^ (-e).toNat) den
    min infinityRank ((e + 1074).toNat * 2 ^ (52 : Nat) + steps)

/-- The signed number nearest to `num / den`. -/
def ofRatio (negative : Bool) (num den : Nat) : Binary64 :=
  ofRank negative (rankOfRatio num den)

/-- The number nearest to an integer. -/
def ofInt (i : Int) : Binary64 := ofRatio (decide (i < 0)) i.natAbs 1

/-- The number nearest to `digits * 10 ^ exponent`. Exponents so large that the result is infinite,
or so small that it is zero, are not expanded. -/
def ofDecimal (negative : Bool) (digits : Nat) (exponent : Int) : Binary64 :=
  if digits = 0 then ofRank negative 0
  else if 0 ≤ exponent then
    if 310 ≤ exponent then ofRank negative infinityRank
    else ofRatio negative (digits * 10 ^ exponent.toNat) 1
  else if (digits.log2 : Int) + 1 + 3 * exponent ≤ -1076 then ofRank negative 0
  else ofRatio negative digits (10 ^ (-exponent).toNat)

/-- The rank of the product of two finite magnitudes. -/
def mulRank (a b : Nat) : Nat := rankOfRatio (scaled a * scaled b) (2 ^ (2148 : Nat))

/-- The rank of the quotient of two finite magnitudes, the second one not zero. -/
def divRank (a b : Nat) : Nat := rankOfRatio (scaled a) (scaled b)

end RecordStore.Binary64
