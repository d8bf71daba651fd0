import RecordStore.Bson.Embedding
import RecordStore.Json.Reader

/-!
# Reading extended JSON

The reader of texts of extended JSON. An object with a marked member has to be exactly what the mark
asks for. All other objects are documents. Integers become 32-bit ones if they fit, and those of
more than 64 signed bits floating-point numbers.

* `Bson.ofExtended?` — the value of a JSON value;
* `Bson.documentOfExtended?` — the document of an object whose own members are no marks.
-/

namespace RecordStore.Bson

-- the power of the core library, also where monoids have one
attribute [local instance (20000)] instPowNat

/-- The number of an integer. -/
def ofInteger (i : Int) : Bson :=
  if -2 ^ (31 : Nat) ≤ i ∧ i < 2 ^ (31 : Nat) then .int32 (.ofInt i)
  else if i < 2 ^ (63 : Nat) then .int64 (.ofInt i)
  else .double (.ofInt i)

/-- A shape all of whose slots must be there, and that has no others. -/
def exactSlots? (names : List String) (value : Json) : Option (List Json) := do
  let slots ← (Json.slots? names value).bind fun slots => slots.mapM id
  match value with
  | .object members => if members.length = names.length then some slots else none
  | _ => some slots

/-- The text of a shape with one text. -/
def onlyText? (name : String) (value : Json) : Option String := do
  match ← exactSlots? [name] value with
  | [.text s] => some s
  | _ => none

/-- A number of 32 unsigned bits. -/
def wordOf? (value : Json) : Option UInt32 :=
  (Json.intBetween? 0 (2 ^ (32 : Nat) - 1) value).map fun i => .ofNat i.toNat

/-- A marker that is written with the number one. -/
def markerOfJson? (marker : Bson) (value : Json) : Option Bson :=
  (Json.intBetween? 1 1 value).map fun _ => marker

/-- Binary data: its base 64 text and the text of its kind. -/
def binaryOfJson? (value : Json) : Option Bson := do
  match ← exactSlots? ["base64", "subType"] value with
  | [.text base64, .text kind] =>
    let bytes ← Base64.decode? base64.toList
    some (.binary (← byteOfText? kind) bytes)
  | _ => none

/-- A regular expression. -/
def regexOfJson? (value : Json) : Option Bson := do
  match ← exactSlots? ["pattern", "options"] value with
  | [.text pattern, .text options] => some (sortedRegex pattern options)
  | _ => none

/-- A timestamp. -/
def timestampOfJson? (value : Json) : Option Bson := do
  match ← exactSlots? ["t", "i"] value with
  | [t, i] => some (.timestamp (← wordOf? t) (← wordOf? i))
  | _ => none

/-- A reference to a document. -/
def referenceOfJson? (value : Json) : Option Bson := do
  match ← exactSlots? ["$ref", "$id"] value with
  | [.text collection, id] =>
    some (.reference collection (← ObjectId.ofText? (← onlyText? "$oid" id)))
  | _ => none

/-- A date of its text or its milliseconds, which may be a plain number. -/
def dateOfJson? : Json → Option Bson
  | .text s => (millisOfText? s).map .date
  | .number number =>
    (Json.intBetween? (-2 ^ (63 : Nat)) (2 ^ (63 : Nat) - 1) (.number number)).map
      fun i => .date (.ofInt i)
  | value => do
    let millis ← integerOfText? 64 (← onlyText? "$numberLong" value)
    some (.date (.ofInt millis))

/-- What an object with one member of a marked name stands for if the member is no text. -/
def jsonReaders : List (String × (Json → Option Bson)) := [
  ("$binary", binaryOfJson?),
  ("$regularExpression", regexOfJson?),
  ("$timestamp", timestampOfJson?),
  ("$dbPointer", referenceOfJson?),
  ("$date", dateOfJson?),
  ("$uuid", fun v => ((Json.text? v).bind uuidOfText?).map (.binary 4)),
  ("$minKey", markerOfJson? .minKey),
  ("$maxKey", markerOfJson? .maxKey),
  ("$undefined", fun | .bool true => some .undefined | _ => none)]

/-- Whether a name is a mark. -/
def isMark (name : String) : Bool :=
  Members.contains name textReaders || Members.contains name jsonReaders

/-- The value of a marked member. -/
def ofMark? (name : String) (value : Json) : Option Bson :=
  match Members.get? name textReaders with
  | some read => (Json.text? value).bind read
  | none => (Members.get? name jsonReaders).bind (· value)

/-- Code alone, or with the document of its variables. -/
def codeOf? (source : Json) (scope : Option (Option BsonDocument)) : Option Bson :=
  match source, scope with
  | .text source, some none => some (.code source)
  | .text source, some (some scope) => some (.scopedCode source scope)
  | _, _ => none

mutual

/-- The value of a JSON value. -/
def ofExtended? : Json → Option Bson
  | .null => some .null
  | .bool b => some (.boolean b)
  | .number (.integer i _) => some (ofInteger i)
  | .number (.float x _) => some (.double x)
  | .text s => some (.text s)
  | .array items => (itemsOfExtended? items).map .array
  | .object members =>
    if members.any fun m => isMark m.1 then markedOfExtended? members
    else (membersOfExtended? members).map .document

/-- The value of the members of an object one of which is marked. -/
def markedOfExtended? : List (String × Json) → Option Bson
  | [(name, value)] => ofMark? name value
  | [(first, a), (second, b)] =>
    if first = "$code" ∧ second = "$scope" then codeOf? a (scopeOfExtended? b)
    else if first = "$scope" ∧ second = "$code" then codeOf? b (scopeOfExtended? a)
    else none
  | _ => none

/-- The document of the variables of code, whose own members are no marks; `null` stands for
none. -/
def scopeOfExtended? : Json → Option (Option BsonDocument)
  | .null => some none
  | .object members => (membersOfExtended? members).map some
  | _ => none

/-- The values of the items of an array. -/
def itemsOfExtended? : List Json → Option (List Bson)
  | [] => some []
  | item :: rest => do some ((← ofExtended? item) :: (← itemsOfExtended? rest))

/-- The members with the values of their JSON values. -/
def membersOfExtended? : List (String × Json) → Option BsonDocument
  | [] => some []
  | (name, value) :: rest => do some ((name, ← ofExtended? value) :: (← membersOfExtended? rest))

end

/-- The document of an object. -/
def documentOfExtended? : Json → Option BsonDocument
  | .object members => membersOfExtended? members
  | _ => none

end RecordStore.Bson
