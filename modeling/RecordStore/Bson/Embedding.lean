import RecordStore.Bson.Literal
import RecordStore.Decimal128.Text
import RecordStore.Json.Basic

/-!
# Document values of JSON values

Every JSON value is a document value, but for one with an integer of more than 64 signed bits.
Integers become 64-bit ones. An object becomes a document, and one that has the shape of a value of
extended JSON becomes that value; the values inside it are turned into document values first.

* `Bson.ofJson?` — the document value;
* `Bson.ofMembers` — what the members of an object stand for.
-/

namespace RecordStore.Bson

-- the power of the core library, also where monoids have one
attribute [local instance (20000)] instPowNat

/-- The member of a value that is a document. -/
def member? (name : String) : Bson → Option Bson
  | .document members => Members.get? name members
  | _ => none

/-- The text of a value that is a text. -/
def text? : Bson → Option String
  | .text s => some s
  | _ => none

/-- The bytes of binary data without a special meaning. -/
def bytes? : Bson → Option (List UInt8)
  | .binary kind bytes => if kind = 0 then some bytes else none
  | _ => none

/-- A number of 32 unsigned bits out of one of 64 signed bits. -/
def word? (i : Int64) : Option UInt32 :=
  if 0 ≤ i.toInt ∧ i.toInt < 2 ^ (32 : Nat) then some (.ofNat i.toInt.toNat) else none

/-- A timestamp of two numbers of one kind. -/
def timestampOf? : Bson → Bson → Option Bson
  | .int32 t, .int32 i => some (.timestamp t.toUInt32 i.toUInt32)
  | .int64 t, .int64 i => do some (.timestamp (← word? t) (← word? i))
  | _, _ => none

/-- A marker that is written with the number one. -/
def markerOf? (marker : Bson) : Bson → Option Bson
  | .int32 i => if i = 1 then some marker else none
  | .int64 i => if i = 1 then some marker else none
  | _ => none

/-- The number of a byte that is a 32-bit integer. -/
def byteOf? : Bson → Option UInt8
  | .int32 i => if 0 ≤ i.toInt ∧ i.toInt < 256 then some (.ofNat i.toInt.toNat) else none
  | _ => none

/-- Binary data: its base 64 text and the text of its kind, or its bytes and the number of its
kind. -/
def binaryOf? (value : Bson) : Option Bson :=
  match (member? "base64" value).bind text? with
  | some base64 => do
    let bytes ← Base64.decode? base64.toList
    some (.binary (← byteOfText? (← text? (← member? "subType" value))) bytes)
  | none => do
    let bytes ← bytes? (← member? "bytes" value)
    some (.binary (← byteOf? (← member? "subType" value)) bytes)

/-- A regular expression with its options sorted. -/
def sortedRegex (pattern options : String) : Bson :=
  .regex pattern (String.ofList (options.toList.mergeSort fun a b => a.toNat ≤ b.toNat))

/-- A regular expression. -/
def regexOf? (value : Bson) : Option Bson := do
  let pattern ← text? (← member? "pattern" value)
  let options ← text? (← member? "options" value)
  some (sortedRegex pattern options)

/-- A reference to a document. -/
def referenceOf? (value : Bson) : Option Bson := do
  let collection ← text? (← member? "$ref" value)
  match ← member? "$id" value with
  | .objectId id => some (.reference collection id)
  | _ => none

/-- A date of its milliseconds or its text. -/
def dateOf? : Bson → Option Bson
  | .int64 millis => some (.date millis)
  | .text s => (millisOfText? s).map .date
  | _ => none

/-- What is written as one text, by the name of its mark. -/
def textReaders : List (String × (String → Option Bson)) := [
  ("$oid", fun s => (ObjectId.ofText? s).map .objectId),
  ("$symbol", fun s => some (.symbol s)),
  ("$numberInt", fun s => (integerOfText? 32 s).map fun i => .int32 (.ofInt i)),
  ("$numberLong", fun s => (integerOfText? 64 s).map fun i => .int64 (.ofInt i)),
  ("$numberDouble", fun s => (Binary64.ofText? s).map .double),
  ("$numberDecimal", fun s => (Decimal128.ofText? s).map .decimal),
  ("$code", fun s => some (.code s))]

/-- What an object with one member of a marked name stands for if the member is no text. -/
def readers : List (String × (Bson → Option Bson)) := [
  ("$numberDecimalBytes", fun v => ((bytes? v).bind Decimal128.ofBytes?).map .decimal),
  ("$binary", binaryOf?),
  ("$timestamp", fun v => do timestampOf? (← member? "t" v) (← member? "i" v)),
  ("$regularExpression", regexOf?),
  ("$dbPointer", referenceOf?),
  ("$date", dateOf?),
  ("$minKey", markerOf? .minKey),
  ("$maxKey", markerOf? .maxKey),
  ("$undefined", fun | .boolean true => some .undefined | _ => none)]

/-- Code with the document of its variables. -/
def scopedCodeOf? : Bson → Bson → Option Bson
  | .text source, .document scope => some (.scopedCode source scope)
  | _, _ => none

/-- The value that an object of extended JSON stands for. -/
def extended? : BsonDocument → Option Bson
  | [(name, value)] =>
    match Members.get? name textReaders with
    | some read => (text? value).bind read
    | none => (Members.get? name readers).bind (· value)
  | [(first, a), (second, b)] =>
    if first = "$code" ∧ second = "$scope" then scopedCodeOf? a b
    else if first = "$scope" ∧ second = "$code" then scopedCodeOf? b a
    else none
  | _ => none

/-- The value of an object: what it stands for, or else a document. -/
def ofMembers (members : BsonDocument) : Bson := (extended? members).getD (.document members)

mutual

/-- The document value of a JSON value. -/
def ofJson? : Json → Option Bson
  | .null => some .null
  | .bool b => some (.boolean b)
  | .number (.integer i _) => if i < 2 ^ (63 : Nat) then some (.int64 (.ofInt i)) else none
  | .number (.float x _) => some (.double x)
  | .text s => some (.text s)
  | .array items => (ofItems? items).map .array
  | .object members => (documentOfMembers? members).map ofMembers

/-- The values of the items of an array. -/
def ofItems? : List Json → Option (List Bson)
  | [] => some []
  | item :: rest => do some ((← ofJson? item) :: (← ofItems? rest))

/-- The members with the values of their JSON values. -/
def documentOfMembers? : List (String × Json) → Option BsonDocument
  | [] => some []
  | (name, value) :: rest => do some ((name, ← ofJson? value) :: (← documentOfMembers? rest))

end

end RecordStore.Bson
