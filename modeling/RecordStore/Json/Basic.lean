import RecordStore.Binary64.Basic
import RecordStore.Members

/-!
# JSON values

A JSON document as data. Numbers come in two kinds that are never equal to each other: integers
from `-2 ^ 63` to `2 ^ 64 - 1`, kept exactly, and finite floating-point numbers. The members of an
object keep their order.

* `JsonNumber`, `Json` — the types;
* `Json.same` — equality: the order of members does not matter, and `0.0` equals `-0.0`;
* `Json.distinct` — the value in which no object repeats a name.
-/

namespace RecordStore

-- the power of the core library, also where monoids have one
attribute [local instance (20000)] instPowNat

/-- A JSON number: an integer of at most 64 bits, or a finite floating-point number. -/
inductive JsonNumber where
  | integer (value : Int) (bounded : -2 ^ (63 : Nat) ≤ value ∧ value < 2 ^ (64 : Nat))
  | float (value : Binary64) (finite : value.isFinite = true)
  deriving DecidableEq

/-- A JSON value. -/
inductive Json where
  | null
  | bool (value : Bool)
  | number (value : JsonNumber)
  | text (value : String)
  | array (items : List Json)
  | object (members : List (String × Json))

instance : Inhabited Json := ⟨.null⟩

namespace JsonNumber

/-- The integer as a number, if it is in range. -/
def ofInt? (i : Int) : Option JsonNumber :=
  if h : -2 ^ (63 : Nat) ≤ i ∧ i < 2 ^ (64 : Nat) then some (.integer i h) else none

/-- The floating-point number as a number, if it is finite. -/
def ofBinary64? (x : Binary64) : Option JsonNumber :=
  if h : x.isFinite = true then some (.float x h) else none

/-- Numerical equality inside one kind; an integer never equals a floating-point number. -/
def same : JsonNumber → JsonNumber → Bool
  | .integer a _, .integer b _ => a == b
  | .float a _, .float b _ => a.equals b
  | _, _ => false

end JsonNumber

namespace Json

/-- The number of a signed 64-bit integer. -/
def ofInt64 (i : Int64) : Json :=
  .number (.integer i.toInt ⟨i.le_toInt, by have := i.toInt_lt; omega⟩)

/-- The number of a floating-point number; `null` stands for those that are not finite. -/
def ofBinary64 (x : Binary64) : Json :=
  if h : x.isFinite = true then .number (.float x h) else .null

/-- The number of a natural number below `2 ^ 63`, for counts and sizes. -/
def ofNat (count : Nat) : Json :=
  match JsonNumber.ofInt? count with
  | some n => .number n
  | none => .null

/-- The number of an integer; `null` if it is out of range. -/
def ofInt (i : Int) : Json :=
  match JsonNumber.ofInt? i with
  | some n => .number n
  | none => .null

/-- The value of a member, if this is an object that has it. -/
def get? (name : String) : Json → Option Json
  | .object members => Members.get? name members
  | _ => none

mutual

/-- Equality of documents. -/
def same : Json → Json → Bool
  | .null, .null => true
  | .bool a, .bool b => a == b
  | .number a, .number b => a.same b
  | .text a, .text b => a == b
  | .array as, .array bs => sameItems as bs
  | .object as, .object bs => as.length == bs.length && sameMembers as bs
  | _, _ => false

/-- Equality of arrays, item by item. -/
def sameItems : List Json → List Json → Bool
  | [], [] => true
  | a :: as, b :: bs => same a b && sameItems as bs
  | _, _ => false

/-- Whether every member of the first list is equal to the member of that name in the second. -/
def sameMembers : List (String × Json) → List (String × Json) → Bool
  | [], _ => true
  | (name, value) :: rest, others =>
    (match Members.get? name others with
      | some other => same value other
      | none => false) && sameMembers rest others

end

mutual

/-- The value in which every repeated name has kept its first place and its last value. -/
def distinct : Json → Json
  | .array items => .array (distinctItems items)
  | .object members => .object (Members.distinct (distinctMembers members))
  | value => value

/-- The items, each made distinct. -/
def distinctItems : List Json → List Json
  | [] => []
  | item :: rest => distinct item :: distinctItems rest

/-- The members, the value of each made distinct. -/
def distinctMembers : List (String × Json) → List (String × Json)
  | [] => []
  | (name, value) :: rest => (name, distinct value) :: distinctMembers rest

end

end Json

end RecordStore
