import RecordStore.Binary64.Basic

/-!
# Shortest decimal forms

The shortest decimal form of a floating-point number has the fewest digits among all decimals that
round to the number, and is the nearest of those to it. The decimals that round to the number of
rank `r` are those between the midpoints to its two neighbours, the midpoints included if `r` is
even.

On the grid of `n`-digit decimals only the two neighbours of the number are candidates, so the
search tries the grids of 1, 2, … 17 digits and takes the first with a candidate in the interval.
When both are in the interval and equally near, the caller says which one is taken.
-/

namespace RecordStore

-- the power of the core library, also where monoids have one
attribute [local instance (20000)] instPowNat

/-- The decimal number `digits * 10 ^ exponent`. -/
structure Decimal where
  digits : Nat
  exponent : Int
  deriving DecidableEq

/-- The choice between two equally near decimals. -/
inductive Tie where
  | up
  | even
  deriving DecidableEq

namespace Decimal

/-- The number of decimal digits of `n`, zero for zero. -/
def digitCount (n : Nat) : Nat :=
  if n = 0 then 0 else digitCount (n / 10) + 1
termination_by n
decreasing_by omega

/-- The number `k` with `10 ^ (k - 1) ≤ num / den < 10 ^ k`, for positive `num` and `den`. -/
def pointPosition (num den : Nat) : Int :=
  if den ≤ num then digitCount (num / den)
  else 1 - (digitCount ((den - 1) / num) : Int)

/-- Write trailing zeros of the digits into the exponent. -/
def stripZeros (digits : Nat) (exponent : Int) : Decimal :=
  if digits = 0 then ⟨0, 0⟩
  else if digits % 10 = 0 then stripZeros (digits / 10) (exponent + 1)
  else ⟨digits, exponent⟩
termination_by digits
decreasing_by omega

end Decimal

namespace Binary64

open Decimal

/-- The candidate on the grid of multiples of `10 ^ unit` for the magnitude of rank `rank`: the
nearer of its two neighbours on the grid that round to it, if there is one. -/
def gridCandidate? (tie : Tie) (rank : Nat) (unit : Int) : Option Nat :=
  let up := 10 ^ unit.toNat
  let down := 10 ^ (-unit).toNat
  let value := scaled rank * down
  let step := up * 2 ^ (1074 : Nat)
  let below := value / step
  let low := (scaled (rank - 1) + scaled rank) * down
  let high := (scaled rank + scaled (rank + 1)) * down
  let belowFits :=
    if rank % 2 = 0 then low ≤ 2 * (below * step) else low < 2 * (below * step)
  let aboveFits :=
    if rank % 2 = 0 then 2 * ((below + 1) * step) ≤ high else 2 * ((below + 1) * step) < high
  if belowFits then
    if aboveFits then
      if 2 * value < (2 * below + 1) * step then some below
      else if (2 * below + 1) * step < 2 * value then some (below + 1)
      else match tie with
        | .up => some (below + 1)
        | .even => some (if below % 2 = 0 then below else below + 1)
    else some below
  else if aboveFits then some (below + 1)
  else none

/-- Try grids of `digits`, `digits + 1`, … digits, at most `fuel` of them. -/
def shortestFrom (tie : Tie) (rank : Nat) (point : Int) : (fuel digits : Nat) → Decimal
  | 0, digits =>
    let unit := point - digits
    stripZeros (scaled rank * 10 ^ (-unit).toNat / (10 ^ unit.toNat * 2 ^ (1074 : Nat))) unit
  | fuel + 1, digits =>
    let unit := point - digits
    match gridCandidate? tie rank unit with
    | some n => stripZeros n unit
    | none => shortestFrom tie rank point fuel (digits + 1)

/-- The shortest decimal form of the magnitude of rank `rank`. Seventeen digits always suffice. -/
def shortest (tie : Tie) (rank : Nat) : Decimal :=
  if rank = 0 then ⟨0, 0⟩
  else shortestFrom tie rank (pointPosition (scaled rank) (2 ^ (1074 : Nat))) 17 1

end Binary64

end RecordStore
