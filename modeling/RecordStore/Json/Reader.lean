import RecordStore.Binary64.Rounding
import RecordStore.Json.Parser

/-!
# Reading typed values from JSON

The rules by which a value of a fixed shape is read from a document. A *shape* is a list of named
slots. It is written as an object, in which unknown members are skipped and a known one may stand
only once, or, where that is allowed, as an array of the slots in order, of which the last ones may
be missing.

* `Json.Form` — what is read of a document, and how;
* `Json.slotsOfObject?`, `Json.slots?` — the values of the slots of a shape;
* `Json.required`, `Json.orElse`, `Json.optional` — a slot that must be there, one with a default
  value, and one that may be `null`;
* `Json.text?`, `Json.binary64?`, `Json.int32?`, … — scalars;
* `Json.choice?` — one of several named constants.
-/

namespace RecordStore.Json

-- the power of the core library, also where monoids have one
attribute [local instance (20000)] instPowNat

/-- A serialized form: the parts of a document that are read, and the value that they give. -/
structure Form (α : Type) where
  shape : Shape
  read : Json → Option α

/-- The slots of a shape that must be an object. -/
def slotsOfObject? (names : List String) : Json → Option (List (Option Json))
  | .object members => names.mapM fun name => Members.only? name members
  | _ => none

/-- The slots of a shape: an object, or an array of the slots in order. -/
def slots? (names : List String) : Json → Option (List (Option Json))
  | .array items =>
    if items.length ≤ names.length then
      some (items.map some ++ List.replicate (names.length - items.length) none)
    else none
  | value => slotsOfObject? names value

/-- A slot that has to be there. -/
def required {α : Type} (read : Json → Option α) (slot : Option Json) : Option α :=
  slot.bind read

/-- A slot with a default value. -/
def orElse {α : Type} (default : α) (read : Json → Option α) : Option Json → Option α
  | none => some default
  | some value => read value

/-- A slot that may be missing or `null`. -/
def optional {α : Type} (read : Json → Option α) : Option Json → Option (Option α)
  | none => some none
  | some .null => some none
  | some value => (read value).map some

/-- A text. -/
def text? : Json → Option String
  | .text s => some s
  | _ => none

/-- A Boolean. -/
def bool? : Json → Option Bool
  | .bool b => some b
  | _ => none

/-- An integer between two bounds, both included. -/
def intBetween? (low high : Int) : Json → Option Int
  | .number (.integer i _) => if low ≤ i ∧ i ≤ high then some i else none
  | _ => none

/-- A signed 32-bit integer. -/
def int32? (value : Json) : Option Int32 :=
  (intBetween? (-2 ^ (31 : Nat)) (2 ^ (31 : Nat) - 1) value).map Int32.ofInt

/-- A natural number of 64 bits. -/
def nat64? (value : Json) : Option Nat := (intBetween? 0 (2 ^ (64 : Nat) - 1) value).map Int.toNat

/-- A floating-point number; integers are rounded to the nearest one. -/
def binary64? : Json → Option Binary64
  | .number (.integer i _) => some (.ofInt i)
  | .number (.float x _) => some x
  | _ => none

/-- An array, all of whose items are read alike. -/
def list? {α : Type} (read : Json → Option α) : Json → Option (List α)
  | .array items => items.mapM read
  | _ => none

/-- A named constant, written as its name or as an object with its name as the only member and
nothing under it; `nothing` tells what counts as nothing. -/
def choice? {α : Type} (nothing : Json → Bool) (names : List (String × α)) : Json → Option α
  | .text name => Members.get? name names
  | .object [(name, value)] => if nothing value then Members.get? name names else none
  | _ => none

/-- Only `null` is nothing. -/
def isNull : Json → Bool
  | .null => true
  | _ => false

/-- `null` and the empty object are nothing. -/
def isVoid : Json → Bool
  | .null => true
  | .object [] => true
  | _ => false

end RecordStore.Json
