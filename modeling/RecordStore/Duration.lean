import RecordStore.Binary64.Text

/-!
# Durations

A length of time in nanoseconds, and its text: the largest unit in which it is at least one, with
as many decimals as are needed.
-/

namespace RecordStore

-- the power of the core library, also where monoids have one
attribute [local instance (20000)] instPowNat

/-- A length of time. -/
structure Duration where
  nanos : Nat
  deriving DecidableEq

namespace Duration

/-- A number of microseconds. -/
def ofMicros (micros : Nat) : Duration := ⟨micros * 1000⟩

/-- A number of milliseconds. -/
def ofMillis (millis : Nat) : Duration := ⟨millis * 1000000⟩

/-- The whole milliseconds. -/
def millis (duration : Duration) : Nat := duration.nanos / 1000000

/-- The decimals of `n / 10 ^ width` without zeros at the end, after a point if there are any. -/
def decimals (width n : Nat) : List Char :=
  let digits := List.replicate (width - (decimalDigits n).length) '0' ++ decimalDigits n
  match (digits.reverse.dropWhile (· == '0')).reverse with
  | [] => []
  | kept => if n = 0 then [] else '.' :: kept

/-- The number `n / 10 ^ width` with as many decimals as are needed. -/
def scaledText (n width : Nat) (unit : String) : String :=
  String.ofList (decimalDigits (n / 10 ^ width) ++ decimals width (n % 10 ^ width)) ++ unit

/-- The text of a duration. -/
def text (duration : Duration) : String :=
  let n := duration.nanos
  if 1000000000 ≤ n then scaledText n 9 "s"
  else if 1000000 ≤ n then scaledText n 6 "ms"
  else if 1000 ≤ n then scaledText n 3 "µs"
  else scaledText n 0 "ns"

end Duration

end RecordStore
