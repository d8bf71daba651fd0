import RecordStore.Binary64.Text
import RecordStore.Timestamp.Basic

/-!
# Timestamps as text

The RFC 3339 form of an instant. It is written in universal time, with the fewest of 0, 3, 6 or 9
fractional digits that are exact, and a leap second as second 60.

* `Timestamp.text` — the form that ends in `+00:00`;
* `Timestamp.zuluText` — the same with `Z` for the offset;
* `Timestamp.TextForm`, `Timestamp.read?` — the instant of a text in one of the accepted forms;
* `Timestamp.ofText?` — the instant of a text of the usual form.
-/

namespace RecordStore.Timestamp

-- the power of the core library, also where monoids have one
attribute [local instance (20000)] instPowNat

/-- A number with at least `width` digits. -/
def padded (width n : Nat) : List Char :=
  let digits := decimalDigits n
  List.replicate (width - digits.length) '0' ++ digits

/-- A year: four digits, outside of 0 to 9999 with a sign. -/
def yearChars (year : Int) : List Char :=
  if 0 ≤ year ∧ year ≤ 9999 then padded 4 year.toNat
  else (if year < 0 then '-' else '+') :: padded 4 year.natAbs

/-- The fraction of a second with the fewest of 0, 3, 6 or 9 digits that are exact. -/
def fractionChars (nanos : Nat) : List Char :=
  if nanos = 0 then []
  else if nanos % 1000000 = 0 then '.' :: padded 3 (nanos / 1000000)
  else if nanos % 1000 = 0 then '.' :: padded 6 (nanos / 1000)
  else '.' :: padded 9 nanos

/-- Date and time of day without the offset. -/
def localChars (t : Timestamp) : List Char :=
  let date := t.date
  let time := t.secondOfDay
  let second := time % 60 + t.nanos / 1000000000
  yearChars date.year ++ '-' :: padded 2 date.month ++ '-' :: padded 2 date.day ++
    'T' :: padded 2 (time / 3600) ++ ':' :: padded 2 (time / 60 % 60) ++ ':' :: padded 2 second ++
    fractionChars (t.nanos % 1000000000)

/-- The RFC 3339 text of an instant. -/
def text (t : Timestamp) : String := String.ofList (t.localChars ++ ['+', '0', '0', ':', '0', '0'])

/-- The RFC 3339 text of an instant with the short offset. -/
def zuluText (t : Timestamp) : String := String.ofList (t.localChars ++ ['Z'])

/-- The number of the first `width` characters, which must be digits, and the rest. -/
def digitsAt? (width : Nat) (cs : List Char) : Option (Nat × List Char) :=
  let digits := cs.take width
  if digits.length = width ∧ digits.all Char.isDigit then
    some (Binary64.digitsValue digits, cs.drop width)
  else none

/-- The rest after an expected character. -/
def charAt? (expected : Char) : List Char → Option (List Char)
  | [] => none
  | c :: rest => if c = expected then some rest else none

/-- The nanoseconds of an optional fraction; digits after the ninth are skipped. -/
def fractionAt? : List Char → Option (Nat × List Char)
  | '.' :: rest =>
    let digits := rest.takeWhile Char.isDigit
    if digits.isEmpty then none
    else
      let kept := digits.take 9
      some (Binary64.digitsValue kept * 10 ^ (9 - kept.length), rest.dropWhile Char.isDigit)
  | cs => some (0, cs)

/-- Where readers of RFC 3339 texts differ: which characters may stand between the date and the
time, and whether the sign of an offset may be the minus sign U+2212. -/
structure TextForm where
  separates : Char → Bool
  longMinus : Bool

/-- The usual form: the letter T or a space, and either minus. -/
def TextForm.usual : TextForm := ⟨fun c => c = 'T' || c = 't' || c = ' ', true⟩

/-- The offset from universal time in seconds: the letter Z, or a sign with less than a day in hours
and minutes. -/
def offset? (form : TextForm) : List Char → Option Int
  | ['Z'] => some 0
  | ['z'] => some 0
  | sign :: rest => do
    let (hours, rest) ← digitsAt? 2 rest
    let rest ← charAt? ':' rest
    let (minutes, rest) ← digitsAt? 2 rest
    if !rest.isEmpty || 59 < minutes || 23 < hours then none
    else
      let seconds : Int := (hours * 60 + minutes) * 60
      if sign = '+' then some seconds
      else if sign = '-' ∨ (sign = '\u2212' ∧ form.longMinus) then some (-seconds)
      else none
  | [] => none

/-- The instant of an RFC 3339 text. Second 60 of any minute is a leap second. -/
def read? (form : TextForm) (s : String) : Option Timestamp := do
  let (year, rest) ← digitsAt? 4 s.toList
  let rest ← charAt? '-' rest
  let (month, rest) ← digitsAt? 2 rest
  let rest ← charAt? '-' rest
  let (day, rest) ← digitsAt? 2 rest
  let rest ← (match rest with
    | c :: rest => if form.separates c then some rest else none
    | [] => none)
  let (hour, rest) ← digitsAt? 2 rest
  let rest ← charAt? ':' rest
  let (minute, rest) ← digitsAt? 2 rest
  let rest ← charAt? ':' rest
  let (second, rest) ← digitsAt? 2 rest
  let (nanos, rest) ← fractionAt? rest
  let offset ← offset? form rest
  let date : CalendarDate := ⟨year, month, day⟩
  if !date.isValid || 23 < hour || 59 < minute || 60 < second then none
  else
    let leap := second = 60
    let secondOfDay : Int := (hour * 60 + minute) * 60 + (if leap then 59 else second)
    of? (date.toDay * 86400 + secondOfDay - offset) (if leap then nanos + 1000000000 else nanos)

/-- The instant of an RFC 3339 text of the usual form. -/
def ofText? (s : String) : Option Timestamp := read? .usual s

end RecordStore.Timestamp
