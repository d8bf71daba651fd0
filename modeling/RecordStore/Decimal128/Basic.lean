import RecordStore.Binary64.Text

/-!
# Decimal floating-point numbers

`Decimal128` is the 128-bit decimal interchange format with a binary coefficient. A bit pattern
stands for a NaN, an infinity or a coefficient times a power of ten; the same number with more
zeros at the end is another value, which has a text of its own.

* `Decimal128`, `Decimal128.Magnitude` — the bits, and what they stand for beside the sign;
* `Decimal128.magnitude`, `Decimal128.pack` — reading and composing the bits;
* `Decimal128.ofBytes?` — the number of sixteen bytes, least significant first.
-/

namespace RecordStore

-- the power of the core library, also where monoids have one
attribute [local instance (20000)] instPowNat

/-- A decimal floating-point number, given by its bits. -/
structure Decimal128 where
  bits : BitVec 128
  deriving DecidableEq

namespace Decimal128

/-- What a bit pattern stands for, without its sign. -/
inductive Magnitude where
  | nan (signalling : Bool)
  | infinity
  | finite (coefficient : Nat) (exponent : Int)
  deriving DecidableEq

/-- The most digits of a coefficient. -/
def precision : Nat := 34

/-- The least exponent. -/
def leastExponent : Int := -6176

/-- The greatest exponent. -/
def greatestExponent : Int := 6111

/-- Whether the sign bit is set. -/
def isNegative (d : Decimal128) : Bool := 2 ^ (127 : Nat) ≤ d.bits.toNat

/-- What the bits below the sign stand for. Four set bits in front mark a value that is not finite.
Two mark a coefficient that has more than 34 digits; like every other one of that size it counts as
zero. -/
def magnitude (d : Decimal128) : Magnitude :=
  let body := d.bits.toNat % 2 ^ (127 : Nat)
  if body / 2 ^ (123 : Nat) = 15 then
    if body / 2 ^ (122 : Nat) % 2 = 1 then .nan (body / 2 ^ (121 : Nat) % 2 = 1) else .infinity
  else if body / 2 ^ (125 : Nat) = 3 then
    .finite 0 ((body / 2 ^ (111 : Nat) % 2 ^ (14 : Nat) : Nat) + leastExponent)
  else
    let coefficient := body % 2 ^ (113 : Nat)
    .finite (if coefficient < 10 ^ precision then coefficient else 0)
      ((body / 2 ^ (113 : Nat) : Nat) + leastExponent)

/-- The bits below the sign of a magnitude whose coefficient and exponent are in range. -/
def Magnitude.body : Magnitude → Nat
  | .nan signalling => 31 * 2 ^ (122 : Nat) + (if signalling then 2 ^ (121 : Nat) else 0)
  | .infinity => 30 * 2 ^ (122 : Nat)
  | .finite coefficient exponent =>
    (exponent - leastExponent).toNat * 2 ^ (113 : Nat) + coefficient

/-- The number of a sign and a magnitude. -/
def pack (negative : Bool) (magnitude : Magnitude) : Decimal128 :=
  ⟨.ofNat 128 ((if negative then 2 ^ (127 : Nat) else 0) + magnitude.body)⟩

/-- The number of sixteen bytes, the least significant one first. -/
def ofBytes? (bytes : List UInt8) : Option Decimal128 :=
  if bytes.length = 16 then
    some ⟨.ofNat 128 (bytes.foldr (fun byte rest => 256 * rest + byte.toNat) 0)⟩
  else none

end Decimal128

end RecordStore
