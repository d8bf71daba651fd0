import RecordStore.Bson.Literal
import RecordStore.Decimal128.Text

/-!
# Document values as JSON

Extended JSON writes every document value as JSON: what JSON lacks becomes an object with one
member, or two, whose names begin with `$`. The canonical form keeps all kinds of numbers apart. The
relaxed form writes integers and finite floating-point numbers as plain numbers, and dates of the
years 1970 to 9999 as text. Inside the variables of code the relaxed form gives way to a bare one,
in which floating-point numbers are plain or `null`, dates are written as in the canonical form, and
bytes without a special meaning are an array of numbers.

* `Bson.canonical`, `Bson.relaxed`, `Bson.bare`.
-/

namespace RecordStore.Bson

-- the power of the core library, also where monoids have one
attribute [local instance (20000)] instPowNat

/-- An object with one marked member. -/
def marked (name : String) (value : Json) : Json := .object [(name, value)]

/-- A date as its milliseconds since the beginning of 1970. -/
def canonicalDate (millis : Int64) : Json :=
  marked "$date" (marked "$numberLong" (.text (toString millis.toInt)))

/-- A date as text if it lies in the years 1970 to 9999. -/
def relaxedDate (millis : Int64) : Json :=
  let seconds := millis.toInt / 1000
  if 0 ≤ millis.toInt ∧ (Timestamp.ofSeconds seconds).year ≤ 9999 then
    marked "$date" (.text (dateText millis.toInt))
  else canonicalDate millis

/-- A floating-point number as a plain number if it is finite. -/
def relaxedDouble : Binary64 → Json
  | .nan negative => marked "$numberDouble" (.text (if negative then "-NaN" else "NaN"))
  | .real negative rank =>
    if h : rank.val != infinityRank then .number (.float (.real negative rank) h)
    else marked "$numberDouble" (.text (if negative then "-Infinity" else "Infinity"))

/-- A floating-point number as marked text with at least one digit after the point. Numbers below
the smallest normal one are plain numbers. -/
def canonicalDouble (x : Binary64) : Json :=
  match x with
  | .nan _ => relaxedDouble x
  | .real _ rank =>
    if rank.val = infinityRank ∨ (0 < rank.val ∧ rank.val < 2 ^ (52 : Nat)) then relaxedDouble x
    else
      let digits := x.plainText
      marked "$numberDouble" (.text (if digits.toList.contains '.' then digits else digits ++ ".0"))

/-- Bytes as an array of numbers. -/
def byteArray (bytes : List UInt8) : Json := .array (bytes.map fun byte => .ofNat byte.toNat)

/-- The form of a value that is neither a plain number nor a date and holds no other values. -/
def plain : Bson → Json
  | .undefined => marked "$undefined" (.bool true)
  | .minKey => marked "$minKey" (.ofNat 1)
  | .maxKey => marked "$maxKey" (.ofNat 1)
  | .boolean b => .bool b
  | .decimal d => marked "$numberDecimal" (.text d.text)
  | .text s => .text s
  | .symbol s => marked "$symbol" (.text s)
  | .timestamp seconds ordinal =>
    marked "$timestamp" (.object [("t", .ofNat seconds.toNat), ("i", .ofNat ordinal.toNat)])
  | .objectId id => marked "$oid" (.text id.text)
  | .reference collection id =>
    marked "$dbPointer"
      (.object [("$ref", .text collection), ("$id", marked "$oid" (.text id.text))])
  | .binary kind bytes =>
    marked "$binary" (.object [("base64", .text (String.ofList (Base64.encode bytes))),
      ("subType", .text (byteText kind))])
  | .regex pattern options =>
    marked "$regularExpression" (.object [("pattern", .text pattern), ("options", .text options)])
  | .code source => marked "$code" (.text source)
  | _ => .null

mutual

/-- The canonical form of a value. -/
def canonical : Bson → Json
  | .int32 i => marked "$numberInt" (.text (toString i.toInt))
  | .int64 i => marked "$numberLong" (.text (toString i.toInt))
  | .double x => canonicalDouble x
  | .date millis => canonicalDate millis
  | .scopedCode source scope =>
    .object [("$code", .text source), ("$scope", .object (canonicalMembers scope))]
  | .array items => .array (canonicalItems items)
  | .document members => .object (canonicalMembers members)
  | value => plain value

/-- The canonical forms of the items of an array. -/
def canonicalItems : List Bson → List Json
  | [] => []
  | item :: rest => canonical item :: canonicalItems rest

/-- The members with the canonical forms of their values. -/
def canonicalMembers : BsonDocument → List (String × Json)
  | [] => []
  | (name, value) :: rest => (name, canonical value) :: canonicalMembers rest

end

mutual

/-- The bare form of a value, in which what is not finite is `null`. -/
def bare : Bson → Json
  | .int32 i => .ofInt i.toInt
  | .int64 i => .ofInt64 i
  | .double x => .ofBinary64 x
  | .date millis => canonicalDate millis
  | .binary kind bytes => if kind = 0 then byteArray bytes else plain (.binary kind bytes)
  | .scopedCode source scope =>
    .object [("$code", .text source), ("$scope", .object (bareMembers scope))]
  | .array items => .array (bareItems items)
  | .document members => .object (bareMembers members)
  | value => plain value

/-- The bare forms of the items of an array. -/
def bareItems : List Bson → List Json
  | [] => []
  | item :: rest => bare item :: bareItems rest

/-- The members with the bare forms of their values. -/
def bareMembers : BsonDocument → List (String × Json)
  | [] => []
  | (name, value) :: rest => (name, bare value) :: bareMembers rest

end

mutual

/-- The relaxed form of a value. -/
def relaxed : Bson → Json
  | .int32 i => .ofInt i.toInt
  | .int64 i => .ofInt64 i
  | .double x => relaxedDouble x
  | .date millis => relaxedDate millis
  | .scopedCode source scope =>
    .object [("$code", .text source), ("$scope", .object (bareMembers scope))]
  | .array items => .array (relaxedItems items)
  | .document members => .object (relaxedMembers members)
  | value => plain value

/-- The relaxed forms of the items of an array. -/
def relaxedItems : List Bson → List Json
  | [] => []
  | item :: rest => relaxed item :: relaxedItems rest

/-- The members with the relaxed forms of their values. -/
def relaxedMembers : BsonDocument → List (String × Json)
  | [] => []
  | (name, value) :: rest => (name, relaxed value) :: relaxedMembers rest

end

end RecordStore.Bson
