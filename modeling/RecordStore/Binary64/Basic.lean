/-!
# Floating-point numbers

`Binary64` is the set of values of the 64-bit binary interchange format. The non-negative numbers
are counted upwards from zero: the *rank* of a number is its place in that count, so consecutive
ranks are neighbouring numbers, `2 ^ 52` is the rank of the smallest normal number, and
`infinityRank` that of infinity.

* `Binary64.scaled` — the number of rank `r` is `scaled r / 2 ^ 1074`;
* `Binary64.compare?` — numerical comparison, undefined on a NaN and blind to the sign of zero;
* `Binary64.totalCompare` — the total order in which negative NaN comes first and positive NaN
  last, and `-0` before `+0`.
-/

namespace RecordStore

-- the power of the core library, also where monoids have one
attribute [local instance (20000)] instPowNat

/-- The rank of infinity, the largest rank. -/
def infinityRank : Nat := 0x7ff0000000000000

/-- A floating-point number: not a number, of either sign, or a signed number given by the rank of
its magnitude. -/
inductive Binary64 where
  | nan (negative : Bool)
  | real (negative : Bool) (rank : Fin (infinityRank + 1))
  deriving DecidableEq

namespace Binary64

/-- The number of a sign and a rank; a rank that is too large gives infinity. -/
def ofRank (negative : Bool) (rank : Nat) : Binary64 :=
  .real negative ⟨min rank infinityRank, by omega⟩

/-- Positive zero. -/
def zero : Binary64 := ofRank false 0

instance : Inhabited Binary64 := ⟨zero⟩

/-- Neither infinite nor a NaN. -/
def isFinite : Binary64 → Bool
  | .nan _ => false
  | .real _ rank => rank.val != infinityRank

/-- The magnitude of rank `rank`, as a multiple of the smallest positive number `2 ^ -1074`. -/
def scaled (rank : Nat) : Nat :=
  if rank < 2 ^ (52 : Nat) then rank
  else (2 ^ (52 : Nat) + rank % 2 ^ (52 : Nat)) * 2 ^ (rank / 2 ^ (52 : Nat) - 1)

/-- The rank with the sign of the number; both zeros have the signed rank zero. -/
def signedRank? : Binary64 → Option Int
  | .nan _ => none
  | .real negative rank => some (if negative then -(rank.val : Int) else rank.val)

/-- Numerical comparison; a NaN compares with nothing. -/
def compare? (x y : Binary64) : Option Ordering :=
  match x.signedRank?, y.signedRank? with
  | some a, some b => some (Ord.compare a b)
  | _, _ => none

/-- `x` and `y` are the same number. -/
def equals (x y : Binary64) : Bool := x.compare? y == some .eq

/-- `x` is less than `y`. -/
def less (x y : Binary64) : Bool := x.compare? y == some .lt

/-- `x` is less than `y` or the same number. -/
def lessOrEqual (x y : Binary64) : Bool := x.less y || x.equals y

/-- The place of a value in the total order. -/
def totalKey : Binary64 → Int
  | .nan true => -(infinityRank : Int) - 2
  | .real true rank => -(rank.val : Int) - 1
  | .real false rank => rank.val
  | .nan false => infinityRank + 1

/-- The total order: NaNs at the ends, by their sign, and `-0` below `+0`. -/
def totalCompare (x y : Binary64) : Ordering := Ord.compare x.totalKey y.totalKey

/-- The same value with the other sign. -/
def negate : Binary64 → Binary64
  | .nan negative => .nan !negative
  | .real negative rank => .real (!negative) rank

/-- The sign bit. -/
def isNegative : Binary64 → Bool
  | .nan negative => negative
  | .real negative _ => negative

end Binary64

end RecordStore
