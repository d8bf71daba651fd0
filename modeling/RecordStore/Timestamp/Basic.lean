import RecordStore.Timestamp.Calendar

/-!
# Timestamps

An instant in universal time, to the nanosecond. The nanoseconds of a second run up to `2 * 10 ^ 9`
so that a leap second, which follows the last second of a minute, has a place of its own. Nothing
keeps other seconds from running on in this way.
-/

namespace RecordStore

/-- An instant: seconds since the beginning of 1970 and nanoseconds into the second. Nanoseconds
from `10 ^ 9` on lie in a leap second after it. -/
structure Timestamp where
  seconds : Int
  nanos : Nat
  nanos_lt : nanos < 2000000000
  deriving DecidableEq

namespace Timestamp

/-- The instant of these seconds and nanoseconds, if there is one. -/
def of? (seconds : Int) (nanos : Nat) : Option Timestamp :=
  if h : nanos < 2000000000 then some ⟨seconds, nanos, h⟩ else none

/-- The beginning of a second. -/
def ofSeconds (seconds : Int) : Timestamp := ⟨seconds, 0, by decide⟩

/-- Instants are ordered by seconds first and nanoseconds second. -/
def compare (s t : Timestamp) : Ordering :=
  (Ord.compare s.seconds t.seconds).then (Ord.compare s.nanos t.nanos)

/-- The date on which the instant falls. -/
def date (t : Timestamp) : CalendarDate := CalendarDate.ofDay (t.seconds / 86400)

/-- The seconds since midnight. -/
def secondOfDay (t : Timestamp) : Nat := (t.seconds % 86400).toNat

/-- The year in which the instant falls. -/
def year (t : Timestamp) : Int := t.date.year

end Timestamp

end RecordStore
