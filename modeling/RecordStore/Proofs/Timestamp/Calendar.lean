import RecordStore.Timestamp.Calendar

/-!
# Dates follow each other as days do

The date of a day number is computed by adding up the leap days before it. Taken apart into eras of
400 years, centuries, cycles of four years and years, the number of a day gives the year and the day
in it directly, and a later day has a later date.

* `EraDay`, `CalendarDate.ofDay_eq` — the parts of a day number, and its date by them;
* `CalendarDate.ofDay_before` — later days have later dates.
-/

namespace RecordStore

/-- A day of an era of 400 years: its century, the cycle of four years in the century, the year in
the cycle and the day in the year. The leap day ends the last year of a cycle, but not that of the
last cycle in a century, unless it is the last century. -/
structure EraDay where
  century : Nat
  cycle : Nat
  year : Nat
  day : Nat
  century_le : century ≤ 3
  cycle_le : cycle ≤ 24
  year_le : year ≤ 3
  day_le : day ≤ 365
  leap : day = 365 → year = 3 ∧ (cycle = 24 → century = 3)

namespace EraDay

/-- The number of the day in its era. -/
def number (e : EraDay) : Nat := e.century * 36524 + e.cycle * 1461 + e.year * 365 + e.day

/-- The number of the year in its era. -/
def yearOfEra (e : EraDay) : Nat := e.century * 100 + e.cycle * 4 + e.year

/-- Every day of an era has a century, a cycle and a year. -/
theorem exists_number {n : Nat} (h : n < 146097) : ∃ e : EraDay, e.number = n := by
  let century := min (n / 36524) 3
  let cycle := (n - century * 36524) / 1461
  let year := min ((n - century * 36524 - cycle * 1461) / 365) 3
  refine ⟨⟨century, cycle, year, n - century * 36524 - cycle * 1461 - year * 365,
    ?_, ?_, ?_, ?_, ?_⟩, ?_⟩
  · omega
  · omega
  · omega
  · omega
  · omega
  · simp only [number]
    omega

theorem number_lt (e : EraDay) : e.number < 146097 := by
  have := e.leap
  have := e.century_le
  have := e.cycle_le
  have := e.year_le
  have := e.day_le
  unfold number
  omega

/-- The year of a day by the rule that adds up the leap days before it. -/
theorem yearOfEra_eq (e : EraDay) :
    (e.number - e.number / 1460 + e.number / 36524 - e.number / 146096) / 365 = e.yearOfEra := by
  obtain ⟨c, q, y, d, hc, hq, hy, hd, leap⟩ := e
  simp only [number, yearOfEra]
  by_cases last : c = 3 ∧ q = 24 ∧ d = 365
  · obtain ⟨rfl, rfl, rfl⟩ := last
    obtain rfl : y = 3 := (leap rfl).1
    rfl
  · -- a day of the last year of a cycle may be counted as a leap day, and is still of that year
    have fourYears : (c * 36524 + q * 1461 + y * 365 + d) / 1460 =
        c * 25 + q + (c * 24 + q + y * 365 + d) / 1460 := by omega
    have century : (c * 36524 + q * 1461 + y * 365 + d) / 36524 = c := by omega
    have era : (c * 36524 + q * 1461 + y * 365 + d) / 146096 = 0 := by omega
    rw [fourYears, century, era]
    omega

/-- The day of the year is what is left of the number of the day. -/
theorem dayOfYear_eq (e : EraDay) :
    e.number - (365 * e.yearOfEra + e.yearOfEra / 4 - e.yearOfEra / 100) = e.day := by
  obtain ⟨c, q, y, d, hc, hq, hy, hd, leap⟩ := e
  have cycles : (c * 100 + q * 4 + y) / 4 = c * 25 + q := by omega
  have centuries : (c * 100 + q * 4 + y) / 100 = c := by omega
  simp only [number, yearOfEra, cycles, centuries]
  omega

/-- The later day of an era is in a later year, or later in the same year. -/
theorem lt_of_number_lt {e f : EraDay} (h : e.number < f.number) :
    e.yearOfEra < f.yearOfEra ∨ e.yearOfEra = f.yearOfEra ∧ e.day < f.day := by
  obtain ⟨c, q, y, d, hc, hq, hy, hd, leap⟩ := e
  obtain ⟨c', q', y', d', hc', hq', hy', hd', leap'⟩ := f
  simp only [number, yearOfEra] at h ⊢
  rcases Nat.lt_trichotomy c c' with less | rfl | more
  · omega
  · rcases Nat.lt_trichotomy q q' with less | rfl | more
    · omega
    · omega
    · omega
  · omega

end EraDay

namespace CalendarDate

/-- The date of a day of a year that begins in March. -/
def ofMarch (year : Int) (day : Nat) : CalendarDate :=
  let month := (5 * day + 2) / 153
  { year := if month < 10 then year else year + 1
    month := if month < 10 then month + 3 else month - 9
    day := day - (153 * month + 2) / 5 + 1 }

theorem ofDay_eq (era : Int) (e : EraDay) :
    ofDay (era * 146097 + e.number - 719468) = ofMarch (era * 400 + e.yearOfEra) e.day := by
  have bound := e.number_lt
  have shifted : era * 146097 + (e.number : Int) - 719468 + 719468 = era * 146097 + e.number := by
    omega
  have quotient : (era * 146097 + (e.number : Int)) / 146097 = era := by omega
  have remainder : ((era * 146097 + (e.number : Int)) % 146097).toNat = e.number := by omega
  simp only [ofDay, shifted, quotient, remainder, e.yearOfEra_eq, e.dayOfYear_eq, ofMarch]
  have swap : (e.yearOfEra : Int) + era * 400 = era * 400 + e.yearOfEra := Int.add_comm _ _
  by_cases h : (5 * e.day + 2) / 153 < 10
  · have late : ¬ (5 * e.day + 2) / 153 + 3 ≤ 2 := by omega
    rw [if_pos h, if_pos h, if_neg late, swap]
  · have := e.day_le
    have early : (5 * e.day + 2) / 153 - 9 ≤ 2 := by omega
    rw [if_neg h, if_neg h, if_pos early, swap]

/-- Every day is a day of an era. -/
theorem exists_eraDay (day : Int) :
    ∃ (era : Int) (e : EraDay), day = era * 146097 + e.number - 719468 := by
  have small : ((day + 719468) % 146097).toNat < 146097 := by omega
  obtain ⟨e, he⟩ := EraDay.exists_number small
  refine ⟨(day + 719468) / 146097, e, ?_⟩
  rw [he]
  omega

/-- One date comes before another one: by the year, then the month, then the day. -/
def Before (a b : CalendarDate) : Prop :=
  a.year < b.year ∨ a.year = b.year ∧ (a.month < b.month ∨ a.month = b.month ∧ a.day < b.day)

theorem ofMarch_before {year year' : Int} {day day' : Nat} (hd : day ≤ 365) (hd' : day' ≤ 365)
    (h : year < year' ∨ year = year' ∧ day < day') :
    (ofMarch year day).Before (ofMarch year' day') := by
  unfold Before ofMarch
  dsimp only
  split <;> split <;> omega

/-- Days follow each other as their dates do. -/
theorem ofDay_before {day day' : Int} (h : day < day') : (ofDay day).Before (ofDay day') := by
  obtain ⟨era, e, rfl⟩ := exists_eraDay day
  obtain ⟨era', e', rfl⟩ := exists_eraDay day'
  rw [ofDay_eq, ofDay_eq]
  refine ofMarch_before e.day_le e'.day_le ?_
  have bound := e.number_lt
  have bound' := e'.number_lt
  have years : e.yearOfEra < 400 ∧ e'.yearOfEra < 400 := by
    have := e.century_le; have := e.cycle_le; have := e.year_le
    have := e'.century_le; have := e'.cycle_le; have := e'.year_le
    unfold EraDay.yearOfEra
    omega
  by_cases less : era < era'
  · omega
  · obtain rfl : era = era' := by omega
    have := EraDay.lt_of_number_lt (e := e) (f := e') (by omega)
    omega

theorem month_ofDay (day : Int) : 1 ≤ (ofDay day).month ∧ (ofDay day).month ≤ 12 := by
  obtain ⟨era, e, rfl⟩ := exists_eraDay day
  have := e.day_le
  rw [ofDay_eq]
  unfold ofMarch
  dsimp only
  split <;> omega

theorem day_ofDay (day : Int) : 1 ≤ (ofDay day).day ∧ (ofDay day).day ≤ 31 := by
  obtain ⟨era, e, rfl⟩ := exists_eraDay day
  rw [ofDay_eq]
  unfold ofMarch
  dsimp only
  omega

end CalendarDate

end RecordStore
