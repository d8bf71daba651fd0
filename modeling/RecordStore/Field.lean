import RecordStore.Binary64.Rounding
import RecordStore.Json.Printer
import RecordStore.Text.Basic
import RecordStore.Timestamp.Text

/-!
# Field values

The value of one field of a record: a scalar of one of five kinds, nothing, or a JSON value. A
timestamp counts as its RFC 3339 text wherever texts are compared, so that it filters, searches and
sorts as that text does once the record has been stored and read back.

* `FieldValue.ofJson`, `FieldValue.toJson` — the forms inside JSON documents;
* `FieldValue.read` — reading by the first kind that takes the value;
* `FieldValue.compare` — the order used by sorting, and `FieldValue.compareOptional` with a missing
  value as the smallest;
* `FieldValue.same` — equality, by which a NaN differs from itself.
-/

namespace RecordStore

-- the power of the core library, also where monoids have one
attribute [local instance (20000)] instPowNat

/-- The value of a field. -/
inductive FieldValue where
  | boolean (value : Bool)
  | integer (value : Int64)
  | float (value : Binary64)
  | text (value : String)
  | instant (value : Timestamp)
  | null
  | json (value : Json)

namespace FieldValue

instance : Inhabited FieldValue := ⟨.null⟩

/-- The text of a value that counts as text. -/
def asText? : FieldValue → Option String
  | .text s => some s
  | .instant t => some t.text
  | _ => none

/-- The number of a numeric value, integers rounded to the nearest floating-point number. -/
def asBinary64? : FieldValue → Option Binary64
  | .integer i => some (.ofInt i.toInt)
  | .float x => some x
  | _ => none

/-- The truth value of a Boolean. -/
def asBoolean? : FieldValue → Option Bool
  | .boolean b => some b
  | _ => none

/-- The name of the kind. -/
def kindName : FieldValue → String
  | .boolean _ => "Boolean"
  | .integer _ => "Integer"
  | .float _ => "Float"
  | .text _ => "String"
  | .instant _ => "DateTime"
  | .null => "Null"
  | .json _ => "Json"

/-- Whether the value is `null`. -/
def isNull : FieldValue → Bool
  | .null => true
  | _ => false

/-- Whether the value is an integer or a floating-point number. -/
def isNumeric : FieldValue → Bool
  | .integer _ => true
  | .float _ => true
  | _ => false

/-- The text in which a search looks; only texts, numbers and timestamps can be searched. -/
def searchableText? : FieldValue → Option String
  | .text s => some s
  | .integer i => some (toString i.toInt)
  | .float x => some x.plainText
  | .instant t => some t.text
  | _ => none

/-- The text in which a value is shown. -/
def display : FieldValue → String
  | .boolean true => "true"
  | .boolean false => "false"
  | .integer i => toString i.toInt
  | .float x => x.plainText
  | .text s => s
  | .instant t => t.text
  | .null => "null"
  | .json v => v.print

/-- The JSON form. A number that is not finite becomes `null`. -/
def toJson : FieldValue → Json
  | .boolean b => .bool b
  | .integer i => .ofInt64 i
  | .float x => .ofBinary64 x
  | .text s => .text s
  | .instant t => .text t.text
  | .null => .null
  | .json v => v

/-- The JSON form inside a serialized result, where a timestamp is written with the short offset. -/
def serialize : FieldValue → Json
  | .instant t => .text t.zuluText
  | v => v.toJson

/-- The signed 64-bit integer of a number, if it is one. -/
def integerOf? : JsonNumber → Option Int64
  | .integer i _ => if i < 2 ^ (63 : Nat) then some (.ofInt i) else none
  | .float _ _ => none

/-- The floating-point number nearest to a number. -/
def binary64Of : JsonNumber → Binary64
  | .integer i _ => .ofInt i
  | .float x _ => x

/-- The field value of a JSON value: scalars by their kind, a number as an integer if it is one of
64 signed bits. Texts stay texts, whatever they look like. -/
def ofJson : Json → FieldValue
  | .null => .null
  | .bool b => .boolean b
  | .number n =>
    match integerOf? n with
    | some i => .integer i
    | none => .float (binary64Of n)
  | .text s => .text s
  | v => .json v

/-- The kinds in the order in which they are tried on a JSON value. Timestamps are not among them:
a text is a text. -/
def readers : List (Json → Option FieldValue) := [
  fun | .bool b => some (.boolean b) | _ => none,
  fun | .number n => (integerOf? n).map .integer | _ => none,
  fun | .number n => some (.float (binary64Of n)) | _ => none,
  fun | .text s => some (.text s) | _ => none,
  fun | .null => some .null | _ => none]

/-- The value of the first kind that takes a JSON value; what no other kind takes stays JSON. -/
def read (v : Json) : FieldValue := (readers.findSome? (· v)).getD (.json v)

/-- The place of the kind in the order of kinds. -/
def kindRank : FieldValue → Nat
  | .null => 0
  | .boolean _ => 1
  | .integer _ => 2
  | .float _ => 2
  | .text _ => 3
  | .instant _ => 3
  | .json _ => 4

/-- The order used by sorting. The kinds come in the order null, Boolean, number, text, JSON.
Two integers compare exactly, an integer and a floating-point number by the total order after
rounding; two timestamps compare by instant, a timestamp and a text by text; JSON values compare by
their text. -/
def compare : FieldValue → FieldValue → Ordering
  | .boolean a, .boolean b => Ord.compare a b
  | .instant a, .instant b => a.compare b
  | .text a, .text b => Text.compare a b
  | .text a, .instant b => Text.compare a b.text
  | .instant a, .text b => Text.compare a.text b
  | .json a, .json b => Text.compare a.print b.print
  | .integer a, .integer b => Ord.compare a.toInt b.toInt
  | .integer a, .float b => (Binary64.ofInt a.toInt).totalCompare b
  | .float a, .integer b => a.totalCompare (Binary64.ofInt b.toInt)
  | .float a, .float b => a.totalCompare b
  | a, b => Ord.compare a.kindRank b.kindRank

/-- The order with a missing value as the minimum. -/
def compareOptional : Option FieldValue → Option FieldValue → Ordering
  | none, none => .eq
  | none, some _ => .lt
  | some _, none => .gt
  | some a, some b => a.compare b

/-- Equality of values of one kind: numbers numerically, JSON values as documents. -/
def same : FieldValue → FieldValue → Bool
  | .boolean a, .boolean b => a == b
  | .integer a, .integer b => a == b
  | .float a, .float b => a.equals b
  | .text a, .text b => a == b
  | .instant a, .instant b => a == b
  | .null, .null => true
  | .json a, .json b => a.same b
  | _, _ => false

/-- Equality of values that may be missing. -/
def sameOptional : Option FieldValue → Option FieldValue → Bool
  | none, none => true
  | some a, some b => a.same b
  | _, _ => false

end FieldValue

end RecordStore
