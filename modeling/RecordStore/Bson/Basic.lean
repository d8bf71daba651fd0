import RecordStore.Decimal128.Basic
import RecordStore.Record

/-!
# Document values

The values of a document database. They are those of JSON with four kinds of numbers, and some
kinds of their own: identifiers, dates, regular expressions, code, binary data and a few markers.
A document is a list of named members in their order.

* `ObjectId`, `Bson`, `BsonDocument` — the types;
* `ExactNumber`, `Bson.isNumber`, `Bson.compareNumber?` — numbers compare by their exact values.
-/

namespace RecordStore

-- the power of the core library, also where monoids have one
attribute [local instance (20000)] instPowNat

/-- An identifier of twelve bytes, as a number. -/
structure ObjectId where
  value : Nat
  value_lt : value < 2 ^ (96 : Nat)
  deriving DecidableEq

/-- A document value. -/
inductive Bson where
  | null
  | undefined
  | minKey
  | maxKey
  | boolean (value : Bool)
  | int32 (value : Int32)
  | int64 (value : Int64)
  | double (value : Binary64)
  | decimal (value : Decimal128)
  | text (value : String)
  | symbol (value : String)
  | date (millis : Int64)
  | timestamp (seconds ordinal : UInt32)
  | objectId (value : ObjectId)
  | reference (collection : String) (id : ObjectId)
  | binary (kind : UInt8) (bytes : List UInt8)
  | regex (pattern options : String)
  | code (source : String)
  | scopedCode (source : String) (scope : List (String × Bson))
  | array (items : List Bson)
  | document (members : List (String × Bson))

/-- The members of a document. -/
abbrev BsonDocument := List (String × Bson)

instance : Inhabited Bson := ⟨.null⟩

namespace ObjectId

/-- The identifier of a number below `2 ^ 96`. -/
def of? (value : Nat) : Option ObjectId :=
  if h : value < 2 ^ (96 : Nat) then some ⟨value, h⟩ else none

end ObjectId

/-- The exact value of a number as a multiple of `10 ^ -6176`, of which all finite numbers of every
kind are multiples. -/
inductive ExactNumber where
  | negativeInfinity
  | finite (units : Int)
  | positiveInfinity
  deriving DecidableEq

namespace ExactNumber

/-- The number of a magnitude and a sign. -/
def signed (negative : Bool) (units : Nat) : ExactNumber :=
  .finite (if negative then -(units : Int) else units)

/-- Infinity with a sign. -/
def infinity (negative : Bool) : ExactNumber :=
  if negative then .negativeInfinity else .positiveInfinity

/-- The comparison of exact values. -/
def compare : ExactNumber → ExactNumber → Ordering
  | .finite a, .finite b => Ord.compare a b
  | .negativeInfinity, .negativeInfinity => .eq
  | .positiveInfinity, .positiveInfinity => .eq
  | .negativeInfinity, _ => .lt
  | .positiveInfinity, _ => .gt
  | .finite _, .negativeInfinity => .gt
  | .finite _, .positiveInfinity => .lt

/-- The units of one. -/
def unitsOfOne : Nat := 10 ^ (6176 : Nat)

/-- The units of `2 ^ -1074`, of which all finite binary numbers are multiples. -/
def unitsOfLeast : Nat := 5 ^ (1074 : Nat) * 10 ^ (5102 : Nat)

/-- The exact value of an integer. -/
def ofInt (i : Int) : ExactNumber := .finite (i * unitsOfOne)

/-- The exact value of a binary number; a NaN has none. -/
def ofBinary64? : Binary64 → Option ExactNumber
  | .nan _ => none
  | .real negative rank =>
    if rank.val = infinityRank then some (infinity negative)
    else some (signed negative (Binary64.scaled rank.val * unitsOfLeast))

/-- The exact value of a decimal number; a NaN has none. -/
def ofDecimal128? (d : Decimal128) : Option ExactNumber :=
  match d.magnitude with
  | .nan _ => none
  | .infinity => some (infinity d.isNegative)
  | .finite coefficient exponent =>
    some (signed d.isNegative
      (coefficient * 10 ^ (exponent - Decimal128.leastExponent).toNat))

end ExactNumber

namespace Bson

/-- Whether a value is a number. -/
def isNumber : Bson → Bool
  | .int32 _ => true
  | .int64 _ => true
  | .double _ => true
  | .decimal _ => true
  | _ => false

/-- The exact value of a number; a NaN and what is no number have none. -/
def exactValue? : Bson → Option ExactNumber
  | .int32 i => some (.ofInt i.toInt)
  | .int64 i => some (.ofInt i.toInt)
  | .double x => ExactNumber.ofBinary64? x
  | .decimal d => ExactNumber.ofDecimal128? d
  | _ => none

/-- The exact comparison of two numbers of any kinds. -/
def compareNumber? (a b : Bson) : Option Ordering :=
  match a.exactValue?, b.exactValue? with
  | some x, some y => some (x.compare y)
  | _, _ => none

end Bson

end RecordStore
