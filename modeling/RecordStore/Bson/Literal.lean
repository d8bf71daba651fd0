import RecordStore.Bson.Base64
import RecordStore.Bson.Basic
import RecordStore.Duration
import RecordStore.Json.Lexeme
import RecordStore.Text.Quoted

/-!
# Texts of document values

The texts in which extended JSON writes identifiers, dates, integers, bytes and UUIDs.

* `ObjectId.text`, `ObjectId.ofText?` — 24 hexadecimal digits;
* `Bson.dateText`, `Bson.millisOfText?` — dates as RFC 3339 texts;
* `Bson.intOfText?`, `Bson.integerOfText?` — integers;
* `Bson.byteText`, `Bson.byteOfText?`, `Bson.uuidOfText?` — bytes.
-/

namespace RecordStore

-- the power of the core library, also where monoids have one
attribute [local instance (20000)] instPowNat

/-- The number of a text of hexadecimal digits. -/
def hexNumber? (digits : List Char) : Option Nat :=
  digits.foldlM (fun n c => (Json.hexValue? c).map fun d => 16 * n + d) 0

/-- The 24 hexadecimal digits of an identifier. -/
def ObjectId.text (id : ObjectId) : String :=
  let digits := Text.hexDigits id.value
  String.ofList (List.replicate (24 - digits.length) '0' ++ digits)

/-- The identifier of 24 hexadecimal digits. -/
def ObjectId.ofText? (s : String) : Option ObjectId := do
  let digits := s.toList
  if digits.length = 24 then ObjectId.of? (← hexNumber? digits) else none

namespace Bson

/-- The two hexadecimal digits of a byte. -/
def byteText (byte : UInt8) : String :=
  String.ofList [Json.hexDigit (byte.toNat / 16), Json.hexDigit (byte.toNat % 16)]

/-- The byte of two hexadecimal digits. -/
def byteOfText? (s : String) : Option UInt8 := do
  let digits := s.toList
  if digits.length = 2 then some (.ofNat (← hexNumber? digits)) else none

/-- The text of a date from 1970 on. -/
def dateText (millis : Int) : String :=
  String.ofList ((Timestamp.ofSeconds (millis / 1000)).localChars ++
    Duration.decimals 3 (millis % 1000).toNat ++ ['Z'])

/-- The form of dates as text: any one character of ASCII parts date and time, and only the short
minus is a sign. -/
def dateForm : Timestamp.TextForm := ⟨fun c => c.toNat < 0x80, false⟩

/-- The milliseconds of an RFC 3339 text. What is left over of a millisecond is cut off towards
1970. The leap second may only end a month, and counts as the end of the second before it. -/
def millisOfText? (s : String) : Option Int64 := do
  let t ← Timestamp.read? dateForm s
  let nanos := if t.nanos < 1000000000 then t.nanos else 999999999
  let date := t.date
  let endsMonth := t.secondOfDay = 86399 ∧ date.day = CalendarDate.monthLength date.year date.month
  if 1000000000 ≤ t.nanos ∧ ¬ endsMonth then none
  some (.ofInt ((t.seconds * 1000000000 + nanos).tdiv 1000000))

/-- The integer of a decimal text with an optional sign. -/
def intOfText? (s : String) : Option Int :=
  let (negative, digits) := Binary64.splitSign s.toList
  if digits.isEmpty || !digits.all Char.isDigit then none
  else
    let value : Int := Binary64.digitsValue digits
    some (if negative then -value else value)

/-- The integer of a decimal text, if it has at most `bits` signed bits. -/
def integerOfText? (bits : Nat) (s : String) : Option Int := do
  let i ← intOfText? s
  if -2 ^ (bits - 1) ≤ i ∧ i < 2 ^ (bits - 1) then some i else none

/-- The bytes of an even number of hexadecimal digits. -/
def bytesOfHex? : List Char → Option (List UInt8)
  | [] => some []
  | high :: low :: rest => do
    let byte ← hexNumber? [high, low]
    some (.ofNat byte :: (← bytesOfHex? rest))
  | _ => none

/-- The bytes of a UUID: 32 hexadecimal digits, or five groups of them that are parted by hyphens,
alone, in braces or after `urn:uuid:`. -/
def uuidOfText? (s : String) : Option (List UInt8) :=
  let cs := s.toList
  let grouped (cs : List Char) : Option (List UInt8) :=
    let groups := cs.splitOn '-'
    if groups.map List.length = [8, 4, 4, 4, 12] then bytesOfHex? groups.flatten else none
  if cs.length = 32 then bytesOfHex? cs
  else if cs.length = 36 then grouped cs
  else if cs.length = 38 ∧ cs.head? = some '\x7b' ∧ cs.getLast? = some '\x7d' then
    grouped ((cs.drop 1).take 36)
  else if cs.length = 45 ∧ "urn:uuid:".toList.isPrefixOf cs then grouped (cs.drop 9)
  else none

end Bson

end RecordStore
