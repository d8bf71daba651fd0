import Mathlib.Algebra.Group.Int.Defs
import Mathlib.Algebra.Group.Nat.Defs
import Mathlib.Data.Nat.Init
import Mathlib.Tactic.SplitIfs
import RecordStore.Proofs.Ordering
import RecordStore.Proofs.Timestamp.Calendar
import RecordStore.Text.Order
import RecordStore.Timestamp.Text

/-!
# The order of timestamps and of their texts

The text of a timestamp is made of numbers of fixed widths, the most significant one first, so that
two such texts compare number by number. Only the fraction has more than one width, and there a text
that ends goes on with a sign, which comes before every digit.

* `Timestamp.compareLex_padded_append` — a number of a fixed width decides before what follows it;
* `Timestamp.compareLex_fractionChars` — fractions of any widths;
* `Timestamp.compare_eq_compare_text_iff` — timestamps of the years 0 to 9999 are ordered as their
  texts are, unless one of them runs on into the second of the other;
* `Timestamp.compare_text_eq_iff` — and those of earlier years are still in order with them, while
  those of later ones are not;
* `Timestamp.text_ne_zuluText`, `Timestamp.isTimeChar_of_mem_localChars` — the two texts of a
  timestamp, and the characters of both.
-/

namespace RecordStore

open Std

namespace Timestamp

/-! ### Numbers of a fixed width -/

theorem padded_one {n : Nat} (h : n < 10) : padded 1 n = [n.digitChar] := by
  simp [padded, decimalDigits, Nat.toDigits_of_lt_base h]

theorem padded_succ {width : Nat} (hw : 0 < width) (n : Nat) :
    padded (width + 1) n = padded width (n / 10) ++ [(n % 10).digitChar] := by
  unfold padded decimalDigits
  by_cases h : n < 10
  · have zeros : List.replicate width '0' = List.replicate (width - 1) '0' ++ ['0'] := by
      rw [← List.replicate_succ', Nat.sub_add_cancel hw]
    have zero : Nat.digitChar 0 = '0' := rfl
    rw [Nat.toDigits_of_lt_base h, Nat.div_eq_of_lt h, Nat.mod_eq_of_lt h,
      Nat.toDigits_of_lt_base (by decide)]
    simp [zero, zeros]
  · rw [Nat.toDigits_of_base_le (by decide) (Nat.le_of_not_lt h)]
    simp [Nat.add_sub_add_right]

theorem length_padded {width n : Nat} (hw : 0 < width) (h : n < 10 ^ width) :
    (padded width n).length = width := by
  have := (Nat.length_toDigits_le_iff (by decide) hw).2 h
  simp only [padded, decimalDigits, List.length_append, List.length_replicate]
  omega

/-- A number is written as its first digits and its last ones. -/
theorem padded_add {width width' : Nat} (hw : 0 < width) (hw' : 0 < width') (n : Nat) :
    padded (width + width') n =
      padded width (n / 10 ^ width') ++ padded width' (n % 10 ^ width') := by
  induction width', hw' using Nat.le_induction generalizing n with
  | base =>
    rw [padded_succ hw, Nat.pow_one, padded_one (Nat.mod_lt _ (by decide))]
  | succ k hk ih =>
    have quotient : n / 10 ^ (k + 1) = n / 10 / 10 ^ k := by
      rw [Nat.div_div_eq_div_mul, Nat.pow_succ']
    have remainder : n % 10 ^ (k + 1) / 10 = n / 10 % 10 ^ k := by
      rw [Nat.pow_succ', Nat.mod_mul_right_div_self]
    have last : n % 10 ^ (k + 1) % 10 = n % 10 := by
      rw [Nat.pow_succ', Nat.mod_mul_right_mod]
    rw [← Nat.add_assoc, padded_succ (by omega), ih, padded_succ (n := n % 10 ^ (k + 1)) hk,
      quotient, remainder, last, List.append_assoc]

theorem compare_digitChar {m n : Nat} (hm : m < 10) (hn : n < 10) :
    Ord.compare m.digitChar n.digitChar = Ord.compare m n := by
  rw [Text.compare_eq_compare_toNat, Nat.toNat_digitChar_of_lt_ten hm,
    Nat.toNat_digitChar_of_lt_ten hn, Nat.compare_eq_ite_lt, Nat.compare_eq_ite_lt]
  simp only [Nat.add_lt_add_iff_left]

/-- Numbers of one width compare as texts as they do by size. -/
theorem compareLex_padded {width m n : Nat} (hw : 0 < width) (hm : m < 10 ^ width)
    (hn : n < 10 ^ width) :
    List.compareLex Ord.compare (padded width m) (padded width n) = Ord.compare m n := by
  induction width, hw using Nat.le_induction generalizing m n with
  | base =>
    rw [padded_one hm, padded_one hn, List.compareLex_cons_cons, List.compareLex_nil_nil,
      compare_digitChar hm hn, Ordering.then_eq]
  | succ k hk ih =>
    have hm' : m / 10 < 10 ^ k := Nat.div_lt_of_lt_mul (by rwa [← Nat.pow_succ'])
    have hn' : n / 10 < 10 ^ k := Nat.div_lt_of_lt_mul (by rwa [← Nat.pow_succ'])
    have lengths : (padded k (m / 10)).length = (padded k (n / 10)).length := by
      rw [length_padded hk hm', length_padded hk hn']
    rw [padded_succ hk, padded_succ hk, compareLex_append _ lengths, ih hm' hn',
      compare_div_mod 10 m n, List.compareLex_cons_cons, List.compareLex_nil_nil,
      compare_digitChar (Nat.mod_lt _ (by decide)) (Nat.mod_lt _ (by decide)),
      Ordering.then_eq]

/-- A number of a fixed width decides before what follows it. -/
theorem compareLex_padded_append {width m n : Nat} (hw : 0 < width) (hm : m < 10 ^ width)
    (hn : n < 10 ^ width) (cs ds : List Char) :
    List.compareLex Ord.compare (padded width m ++ cs) (padded width n ++ ds) =
      (Ord.compare m n).then (List.compareLex Ord.compare cs ds) := by
  have lengths : (padded width m).length = (padded width n).length := by
    rw [length_padded hw hm, length_padded hw hn]
  rw [compareLex_append _ lengths, compareLex_padded hw hm hn]

theorem compareLex_cons_self (c : Char) (cs ds : List Char) :
    List.compareLex Ord.compare (c :: cs) (c :: ds) = List.compareLex Ord.compare cs ds := by
  have same : Ord.compare c c = .eq := ReflCmp.compare_self
  rw [List.compareLex_cons_cons, same, Ordering.eq_then]

/-! ### Fractions -/

theorem isDigit_of_mem_padded {width n : Nat} {c : Char} (h : c ∈ padded width n) :
    c.isDigit = true := by
  rcases List.mem_append.1 h with h | h
  · rw [List.eq_of_mem_replicate h]
    decide
  · exact Nat.isDigit_of_mem_toDigits (by decide) (by decide) h

theorem code_of_mem_padded {width n : Nat} {c : Char} (h : c ∈ padded width n) :
    48 ≤ c.toNat := by
  have digit := isDigit_of_mem_padded h
  simp only [Char.isDigit, Bool.and_eq_true, decide_eq_true_eq] at digit
  exact digit.1

/-- What begins with a sign comes before what begins with a digit. -/
theorem compareLex_sign_padded {sign : Char} (below : sign.toNat < 48) {width n : Nat}
    (hw : 0 < width) (h : n < 10 ^ width) (cs ds : List Char) :
    List.compareLex Ord.compare (sign :: cs) (padded width n ++ ds) = .lt := by
  have length := length_padded hw h
  cases digits : padded width n with
  | nil =>
    rw [digits, List.length_nil] at length
    omega
  | cons c rest =>
    have large : 48 ≤ c.toNat := code_of_mem_padded (digits ▸ List.mem_cons_self)
    have less : Ord.compare sign c = .lt := by
      rw [Text.compare_eq_compare_toNat]
      exact Nat.compare_eq_lt.2 (by omega)
    rw [List.cons_append, List.compareLex_cons_cons, less, Ordering.lt_then]

/-- Fractions of different widths compare by their values, where the last digits of the longer one
are needed. -/
theorem compareLex_fraction_lt {width more m n : Nat} (hw : 0 < width) (hmore : 0 < more)
    (hm : m < 10 ^ width) (hn : n < 10 ^ (width + more)) (needed : n % 10 ^ more ≠ 0)
    (cs ds : List Char) :
    List.compareLex Ord.compare (padded width m ++ '+' :: cs) (padded (width + more) n ++ ds) =
      Ord.compare (m * 10 ^ more) n := by
  have positive : 0 < 10 ^ more := Nat.pow_pos (by decide)
  have quotient : n / 10 ^ more < 10 ^ width :=
    Nat.div_lt_of_lt_mul (by rwa [Nat.mul_comm, ← Nat.pow_add])
  rw [padded_add hw hmore, List.append_assoc, compareLex_padded_append hw hm quotient,
    compareLex_sign_padded (by decide) hmore (Nat.mod_lt _ positive),
    compare_div_mod (10 ^ more) (m * 10 ^ more) n, Nat.mul_div_cancel _ positive,
    Nat.mul_mod_left]
  congr 1
  exact (Nat.compare_eq_lt.2 (by omega)).symm

theorem compare_mul_right {k : Nat} (hk : 0 < k) (m n : Nat) :
    Ord.compare (m * k) (n * k) = Ord.compare m n := by
  rw [Nat.compare_eq_ite_lt, Nat.compare_eq_ite_lt]
  simp only [Nat.mul_lt_mul_right hk]

/-- A fraction that is not zero has nine digits less `3 * k` zeros at the end, and no three more of
them could be left out. -/
theorem fractionChars_eq {nanos : Nat} (positive : nanos ≠ 0) (below : nanos < 10 ^ 9) :
    ∃ k m, k ≤ 2 ∧ nanos = m * 10 ^ (3 * k) ∧ m % 1000 ≠ 0 ∧
      fractionChars nanos = '.' :: padded (9 - 3 * k) m := by
  unfold fractionChars
  rw [if_neg positive]
  split
  · exact ⟨2, nanos / 1000000, by omega, by omega, by omega, rfl⟩
  · split
    · exact ⟨1, nanos / 1000, by omega, by omega, by omega, rfl⟩
    · exact ⟨0, nanos, by omega, by omega, by omega, rfl⟩

/-- The digits of two fractions, the first of them not the longer one, compare by their values. -/
theorem compareLex_digits_of_le {k k' m m' : Nat} (le : k' ≤ k) (hk : k ≤ 2)
    (hm : m * 10 ^ (3 * k) < 10 ^ 9) (hm' : m' * 10 ^ (3 * k') < 10 ^ 9) (needed : m' % 1000 ≠ 0)
    (cs : List Char) :
    List.compareLex Ord.compare (padded (9 - 3 * k) m ++ '+' :: cs)
        (padded (9 - 3 * k') m' ++ '+' :: cs) =
      Ord.compare (m * 10 ^ (3 * k)) (m' * 10 ^ (3 * k')) := by
  have width {j i : Nat} (hj : j ≤ 2) (h : i * 10 ^ (3 * j) < 10 ^ 9) : i < 10 ^ (9 - 3 * j) := by
    refine Nat.lt_of_mul_lt_mul_right (a := 10 ^ (3 * j)) ?_
    rwa [← Nat.pow_add, Nat.sub_add_cancel (by omega)]
  have scale (j : Nat) : 0 < 10 ^ (3 * j) := Nat.pow_pos (by decide)
  rcases Nat.eq_or_lt_of_le le with rfl | less
  · rw [compareLex_padded_append (by omega) (width hk hm) (width hk hm'), compare_mul_right (scale _)]
    have same : List.compareLex Ord.compare ('+' :: cs) ('+' :: cs) = .eq := ReflCmp.compare_self
    rw [same, Ordering.then_eq]
  · obtain ⟨more, rfl⟩ : ∃ more, k = k' + (more + 1) := ⟨k - k' - 1, by omega⟩
    have longer : 9 - 3 * k' = 9 - 3 * (k' + (more + 1)) + 3 * (more + 1) := by omega
    have last : m' % 10 ^ (3 * (more + 1)) ≠ 0 := by
      intro none
      refine needed (Nat.mod_eq_zero_of_dvd (Nat.dvd_trans ?_ (Nat.dvd_of_mod_eq_zero none)))
      exact Nat.pow_dvd_pow 10 (show 3 ≤ 3 * (more + 1) by omega)
    have value : m * 10 ^ (3 * (k' + (more + 1))) = m * 10 ^ (3 * (more + 1)) * 10 ^ (3 * k') := by
      rw [Nat.mul_assoc, ← Nat.pow_add]
      congr 2
      omega
    rw [value, compare_mul_right (scale _), longer]
    exact compareLex_fraction_lt (by omega) (by omega) (width hk hm)
      (longer ▸ width (Nat.le_trans le hk) hm') last cs _

/-- The fractions of a second compare as texts as they do by size. -/
theorem compareLex_fractionChars {m n : Nat} (hm : m < 10 ^ 9) (hn : n < 10 ^ 9)
    (cs : List Char) :
    List.compareLex Ord.compare (fractionChars m ++ '+' :: cs) (fractionChars n ++ '+' :: cs) =
      Ord.compare m n := by
  have below : Ord.compare '+' '.' = .lt := rfl
  have above : Ord.compare '.' '+' = .gt := rfl
  have none : fractionChars 0 = [] := rfl
  by_cases m0 : m = 0
  · by_cases n0 : n = 0
    · rw [m0, n0]
      exact ReflCmp.compare_self
    · obtain ⟨k, n', -, -, -, digits⟩ := fractionChars_eq n0 hn
      rw [m0, none, digits, List.nil_append, List.cons_append, List.compareLex_cons_cons,
        below]
      exact (Nat.compare_eq_lt.2 (by omega)).symm
  · obtain ⟨k, m', hk, rfl, needed, digits⟩ := fractionChars_eq m0 hm
    by_cases n0 : n = 0
    · rw [n0, none, digits, List.nil_append, List.cons_append, List.compareLex_cons_cons, above,
        ← Nat.compare_swap, Nat.compare_eq_lt.2 (Nat.pos_of_ne_zero m0)]
      rfl
    · obtain ⟨k', n', hk', rfl, needed', digits'⟩ := fractionChars_eq n0 hn
      rw [digits, digits', List.cons_append, List.cons_append, compareLex_cons_self]
      rcases Nat.le_total k' k with le | le
      · exact compareLex_digits_of_le le hk hm hn needed' cs
      · have turned := compareLex_digits_of_le le hk' hn hm needed cs
        have swapped := congrArg Ordering.swap turned
        rwa [← OrientedCmp.eq_swap, Nat.compare_swap] at swapped

/-! ### Timestamps -/

/-- The year can be written with four digits and without a sign. -/
def HasFourDigitYear (t : Timestamp) : Prop := 0 ≤ t.year ∧ t.year ≤ 9999

instance (t : Timestamp) : Decidable t.HasFourDigitYear :=
  inferInstanceAs (Decidable (0 ≤ t.year ∧ t.year ≤ 9999))

variable {t u : Timestamp}

theorem secondOfDay_lt (t : Timestamp) : t.secondOfDay < 86400 := by
  unfold secondOfDay
  omega

/-- The second of a minute as it is written, 60 for a leap second. -/
def writtenSecond (t : Timestamp) : Nat := t.secondOfDay % 60 + t.nanos / 1000000000

theorem toList_text (h : t.HasFourDigitYear) :
    t.text.toList =
      padded 4 t.year.toNat ++ '-' :: (padded 2 t.date.month ++ '-' :: (padded 2 t.date.day ++
        'T' :: (padded 2 (t.secondOfDay / 3600) ++ ':' :: (padded 2 (t.secondOfDay / 60 % 60) ++
          ':' :: (padded 2 t.writtenSecond ++ (fractionChars (t.nanos % 1000000000) ++
            '+' :: ['0', '0', ':', '0', '0'])))))) := by
  have year : yearChars t.date.year = padded 4 t.year.toNat := if_pos h
  simp only [text, localChars, year, writtenSecond, String.toList_ofList, List.append_assoc,
    List.cons_append]

/-- The texts of two timestamps compare part by part, from the year to the fraction. -/
theorem compare_text (ht : t.HasFourDigitYear) (hu : u.HasFourDigitYear) :
    Text.compare t.text u.text =
      (Ord.compare t.year.toNat u.year.toNat).then
        ((Ord.compare t.date.month u.date.month).then
          ((Ord.compare t.date.day u.date.day).then
            ((Ord.compare (t.secondOfDay / 3600) (u.secondOfDay / 3600)).then
              ((Ord.compare (t.secondOfDay / 60 % 60) (u.secondOfDay / 60 % 60)).then
                ((Ord.compare t.writtenSecond u.writtenSecond).then
                  (Ord.compare (t.nanos % 1000000000) (u.nanos % 1000000000))))))) := by
  have month (v : Timestamp) : v.date.month < 10 ^ 2 := by
    have := CalendarDate.month_ofDay (v.seconds / 86400)
    exact Nat.lt_of_le_of_lt this.2 (by decide)
  have day (v : Timestamp) : v.date.day < 10 ^ 2 := by
    have := CalendarDate.day_ofDay (v.seconds / 86400)
    exact Nat.lt_of_le_of_lt this.2 (by decide)
  have hour (v : Timestamp) : v.secondOfDay / 3600 < 10 ^ 2 := by
    have := v.secondOfDay_lt
    omega
  have minute (v : Timestamp) : v.secondOfDay / 60 % 60 < 10 ^ 2 := by omega
  have second (v : Timestamp) : v.writtenSecond < 10 ^ 2 := by
    have := v.nanos_lt
    unfold writtenSecond
    omega
  have fraction (v : Timestamp) : v.nanos % 1000000000 < 10 ^ 9 := by omega
  have year {v : Timestamp} (h : v.HasFourDigitYear) : v.year.toNat < 10 ^ 4 := by
    have := h.1
    have := h.2
    omega
  show List.compareLex Ord.compare t.text.toList u.text.toList = _
  rw [toList_text ht, toList_text hu,
    compareLex_padded_append (by decide) (year ht) (year hu), compareLex_cons_self,
    compareLex_padded_append (by decide) (month t) (month u), compareLex_cons_self,
    compareLex_padded_append (by decide) (day t) (day u), compareLex_cons_self,
    compareLex_padded_append (by decide) (hour t) (hour u), compareLex_cons_self,
    compareLex_padded_append (by decide) (minute t) (minute u), compareLex_cons_self,
    compareLex_padded_append (by decide) (second t) (second u),
    compareLex_fractionChars (fraction t) (fraction u)]

/-- Days compare as their dates do. -/
theorem compare_day (ht : t.HasFourDigitYear) (hu : u.HasFourDigitYear) :
    Ord.compare (t.seconds / 86400) (u.seconds / 86400) =
      (Ord.compare t.year.toNat u.year.toNat).then
        ((Ord.compare t.date.month u.date.month).then (Ord.compare t.date.day u.date.day)) := by
  have before {v w : Timestamp} (hv : v.HasFourDigitYear) (h : v.date.Before w.date) :
      (Ord.compare v.year.toNat w.year.toNat).then
        ((Ord.compare v.date.month w.date.month).then (Ord.compare v.date.day w.date.day)) = .lt := by
    have := hv.1
    simp only [CalendarDate.Before] at h
    simp only [Ordering.then_eq_lt, Nat.compare_eq_lt, Nat.compare_eq_eq, year] at this ⊢
    omega
  rcases Int.lt_trichotomy (t.seconds / 86400) (u.seconds / 86400) with less | same | more
  · rw [before ht (CalendarDate.ofDay_before less)]
    exact Int.compare_eq_lt.2 less
  · have date : t.date = u.date := congrArg CalendarDate.ofDay same
    rw [same, year, year, date, Nat.compare_eq_eq.2 rfl, Nat.compare_eq_eq.2 rfl,
      Nat.compare_eq_eq.2 rfl]
    exact ReflCmp.compare_self
  · have swapped := congrArg Ordering.swap (before hu (CalendarDate.ofDay_before more))
    simp only [Ordering.swap_then, Nat.compare_swap] at swapped
    rw [swapped]
    exact OrientedCmp.gt_of_lt (Int.compare_eq_lt.2 more)

/-- Minutes compare as the dates and times do that they are written with. -/
theorem compare_minute (ht : t.HasFourDigitYear) (hu : u.HasFourDigitYear) :
    Ord.compare (t.seconds / 60) (u.seconds / 60) =
      (Ord.compare t.year.toNat u.year.toNat).then
        ((Ord.compare t.date.month u.date.month).then
          ((Ord.compare t.date.day u.date.day).then
            ((Ord.compare (t.secondOfDay / 3600) (u.secondOfDay / 3600)).then
              (Ord.compare (t.secondOfDay / 60 % 60) (u.secondOfDay / 60 % 60))))) := by
  have days : Ord.compare (t.seconds / 60) (u.seconds / 60) =
      (Ord.compare (t.seconds / 86400) (u.seconds / 86400)).then
        ((Ord.compare (t.secondOfDay / 3600) (u.secondOfDay / 3600)).then
          (Ord.compare (t.secondOfDay / 60 % 60) (u.secondOfDay / 60 % 60))) := by
    unfold secondOfDay
    rw [ordering_eq_iff]
    simp only [Ordering.then_eq_lt, Ordering.then_eq_gt, Nat.compare_eq_lt, Nat.compare_eq_gt,
      Nat.compare_eq_eq, Int.compare_eq_lt, Int.compare_eq_gt, Int.compare_eq_eq]
    omega
  rw [days, compare_day ht hu]
  simp only [Ordering.then_assoc]

/-- Instants compare by the minute, the second of the minute and the nanoseconds. -/
theorem compare_eq_minute (t u : Timestamp) :
    t.compare u =
      (Ord.compare (t.seconds / 60) (u.seconds / 60)).then
        ((Ord.compare (t.secondOfDay % 60) (u.secondOfDay % 60)).then
          (Ord.compare t.nanos u.nanos)) := by
  have seconds : Ord.compare t.seconds u.seconds =
      (Ord.compare (t.seconds / 60) (u.seconds / 60)).then
        (Ord.compare (t.secondOfDay % 60) (u.secondOfDay % 60)) := by
    unfold secondOfDay
    rw [ordering_eq_iff]
    simp only [Ordering.then_eq_lt, Ordering.then_eq_gt, Nat.compare_eq_lt, Nat.compare_eq_gt,
      Int.compare_eq_lt, Int.compare_eq_gt, Int.compare_eq_eq]
    omega
  rw [compare, seconds, Ordering.then_assoc]

/-! ### Seconds that run on -/

/-- One instant runs on into the next second of its minute, and another one is in that second, but
not behind it. It is the earlier one, since its second is, and is written as a later time or as the
same. -/
def Overtakes (t u : Timestamp) : Prop :=
  t.seconds % 60 ≠ 59 ∧ u.seconds = t.seconds + 1 ∧ u.nanos + 1000000000 ≤ t.nanos

instance (t u : Timestamp) : Decidable (t.Overtakes u) :=
  inferInstanceAs (Decidable (_ ∧ _ ∧ _))

/-- Inside a minute the seconds that are written count a leap second as the one that follows, which
makes a difference only where there is another one that follows. -/
theorem compare_writtenSecond_iff {second second' nanos nanos' : Nat}
    (below : nanos < 2000000000) (below' : nanos' < 2000000000) :
    (Ord.compare second second').then (Ord.compare nanos nanos') =
        (Ord.compare (second + nanos / 1000000000) (second' + nanos' / 1000000000)).then
          (Ord.compare (nanos % 1000000000) (nanos' % 1000000000)) ↔
      ¬ (second' = second + 1 ∧ nanos' + 1000000000 ≤ nanos) ∧
        ¬ (second = second' + 1 ∧ nanos + 1000000000 ≤ nanos') := by
  rcases Nat.lt_trichotomy second second' with less | rfl | more
  · rw [Nat.compare_eq_lt.2 less, Ordering.lt_then, eq_comm, Ordering.then_eq_lt,
      Nat.compare_eq_lt, Nat.compare_eq_lt, Nat.compare_eq_eq]
    omega
  · have same : Ord.compare (second + nanos / 1000000000) (second + nanos' / 1000000000) =
        Ord.compare (nanos / 1000000000) (nanos' / 1000000000) := by
      rw [Nat.compare_eq_ite_lt, Nat.compare_eq_ite_lt]
      simp only [Nat.add_lt_add_iff_left]
    rw [Nat.compare_eq_eq.2 rfl, Ordering.eq_then, same, ← compare_div_mod]
    exact iff_of_true rfl ⟨by omega, by omega⟩
  · rw [Nat.compare_eq_gt.2 more, Ordering.gt_then, eq_comm, Ordering.then_eq_gt,
      Nat.compare_eq_gt, Nat.compare_eq_gt, Nat.compare_eq_eq]
    omega

/-- In one minute an instant overtakes another one by the second and the nanoseconds. -/
theorem overtakes_iff (minute : t.seconds / 60 = u.seconds / 60) :
    t.Overtakes u ↔
      u.secondOfDay % 60 = t.secondOfDay % 60 + 1 ∧ u.nanos + 1000000000 ≤ t.nanos := by
  unfold Overtakes secondOfDay
  omega

/-- Timestamps of the years 0 to 9999 are ordered as their texts are, unless one of them runs on
into the second of the other. -/
theorem compare_eq_compare_text_iff (ht : t.HasFourDigitYear) (hu : u.HasFourDigitYear) :
    t.compare u = Text.compare t.text u.text ↔ ¬ t.Overtakes u ∧ ¬ u.Overtakes t := by
  have text : Text.compare t.text u.text =
      (Ord.compare (t.seconds / 60) (u.seconds / 60)).then
        ((Ord.compare t.writtenSecond u.writtenSecond).then
          (Ord.compare (t.nanos % 1000000000) (u.nanos % 1000000000))) := by
    rw [compare_text ht hu, compare_minute ht hu]
    simp only [Ordering.then_assoc]
  have apart (h : t.seconds / 60 ≠ u.seconds / 60) : ¬ t.Overtakes u ∧ ¬ u.Overtakes t := by
    unfold Overtakes
    omega
  rw [text, compare_eq_minute]
  rcases Int.lt_trichotomy (t.seconds / 60) (u.seconds / 60) with less | same | more
  · rw [Int.compare_eq_lt.2 less, Ordering.lt_then, Ordering.lt_then]
    exact iff_of_true rfl (apart (Int.ne_of_lt less))
  · rw [Int.compare_eq_eq.2 same, Ordering.eq_then, Ordering.eq_then]
    rw [overtakes_iff same, overtakes_iff same.symm]
    exact compare_writtenSecond_iff t.nanos_lt u.nanos_lt
  · rw [Int.compare_eq_gt.2 more, Ordering.gt_then, Ordering.gt_then]
    exact iff_of_true rfl (apart (Int.ne_of_gt more))

/-! ### Years with a sign -/

/-- The sign of a year that is not one of four digits comes before all digits. -/
theorem compare_text_of_sign (ht : ¬ t.HasFourDigitYear) (hu : u.HasFourDigitYear) :
    Text.compare t.text u.text = .lt := by
  have first : ∃ sign rest, sign.toNat < 48 ∧ t.text.toList = sign :: rest := by
    have year : yearChars t.date.year =
        (if t.year < 0 then '-' else '+') :: padded 4 t.year.natAbs := if_neg ht
    refine ⟨if t.year < 0 then '-' else '+', ?_⟩
    simp only [text, localChars, year, String.toList_ofList, List.append_assoc, List.cons_append]
    refine ⟨_, ?_, rfl⟩
    split <;> decide
  obtain ⟨sign, rest, below, text⟩ := first
  have small : u.year.toNat < 10 ^ 4 := by
    have := hu.1
    have := hu.2
    omega
  show List.compareLex Ord.compare t.text.toList u.text.toList = .lt
  rw [text, toList_text hu]
  exact compareLex_sign_padded below (by decide) small _ _

theorem compare_of_year_lt (h : t.year < u.year) : t.compare u = .lt := by
  have days : t.seconds / 86400 < u.seconds / 86400 := by
    rcases Int.lt_trichotomy (t.seconds / 86400) (u.seconds / 86400) with less | same | more
    · exact less
    · have : t.year = u.year := congrArg (fun day => (CalendarDate.ofDay day).year) same
      omega
    · have := CalendarDate.ofDay_before more
      simp only [CalendarDate.Before] at this
      simp only [year, date] at h
      omega
  have seconds : t.seconds < u.seconds := by omega
  rw [compare, Int.compare_eq_lt.2 seconds, Ordering.lt_then]

/-- What overtakes an instant is of the same year. -/
theorem Overtakes.year_eq (h : t.Overtakes u) : t.year = u.year := by
  have day : t.seconds / 86400 = u.seconds / 86400 := by
    have := h.1
    have := h.2.1
    omega
  rw [year, year, date, date, day]

/-- A timestamp compares with the text of one of the years 0 to 9999 as it does with that one itself
exactly if it is not of a later year, and neither of them overtakes the other. -/
theorem compare_text_eq_iff (hu : u.HasFourDigitYear) :
    Text.compare t.text u.text = t.compare u ↔
      t.year ≤ 9999 ∧ ¬ t.Overtakes u ∧ ¬ u.Overtakes t := by
  by_cases ht : t.HasFourDigitYear
  · rw [eq_comm, compare_eq_compare_text_iff ht hu]
    exact ⟨fun h => ⟨ht.2, h⟩, fun h => h.2⟩
  · rw [compare_text_of_sign ht hu]
    have := hu.1
    have := hu.2
    constructor
    · intro h
      have notLate : t.year ≤ 9999 := by
        by_contra late
        have after : u.compare t = .lt := compare_of_year_lt (by omega)
        exact OrientedCmp.not_lt_of_lt after h.symm
      refine ⟨notLate, fun overtakes => ht ?_, fun overtakes => ht ?_⟩
      · rw [HasFourDigitYear, overtakes.year_eq]
        exact hu
      · rw [HasFourDigitYear, ← overtakes.year_eq]
        exact hu
    · rintro ⟨notLate, -⟩
      have : t.year < 0 := by
        by_contra notNegative
        exact ht ⟨by omega, notLate⟩
      exact (compare_of_year_lt (by omega)).symm

/-! ### The two forms -/

theorem text_ne_zuluText (t : Timestamp) : t.text ≠ t.zuluText := by
  intro same
  have chars := List.append_cancel_left (String.ofList_injective same)
  exact absurd chars (by decide)

/-- Whether a character can stand in a date and a time. -/
def isTimeChar (c : Char) : Bool := c.isDigit || ['-', '+', 'T', ':', '.'].contains c

theorem isTimeChar_of_mem_padded {width n : Nat} {c : Char} (h : c ∈ padded width n) :
    isTimeChar c = true := by
  rw [isTimeChar, isDigit_of_mem_padded h, Bool.true_or]

theorem isTimeChar_of_mem_yearChars {year : Int} {c : Char} (h : c ∈ yearChars year) :
    isTimeChar c = true := by
  unfold yearChars at h
  split at h
  · exact isTimeChar_of_mem_padded h
  · rcases List.mem_cons.1 h with sign | digit
    · rw [sign]
      split <;> decide
    · exact isTimeChar_of_mem_padded digit

theorem isTimeChar_of_mem_fractionChars {nanos : Nat} {c : Char} (h : c ∈ fractionChars nanos) :
    isTimeChar c = true := by
  unfold fractionChars at h
  split_ifs at h
  · exact nomatch h
  all_goals
    rcases List.mem_cons.1 h with point | digit
    · rw [point]
      decide
    · exact isTimeChar_of_mem_padded digit

/-- Dates and times are written with digits and a few marks. -/
theorem isTimeChar_of_mem_localChars {t : Timestamp} {c : Char} (h : c ∈ t.localChars) :
    isTimeChar c = true := by
  have dash : isTimeChar '-' = true := by decide
  have letter : isTimeChar 'T' = true := by decide
  have colon : isTimeChar ':' = true := by decide
  revert c
  simp only [localChars, List.forall_mem_append, List.forall_mem_cons]
  exact ⟨⟨⟨⟨⟨⟨fun _ => isTimeChar_of_mem_yearChars, dash, fun _ => isTimeChar_of_mem_padded⟩,
    dash, fun _ => isTimeChar_of_mem_padded⟩, letter, fun _ => isTimeChar_of_mem_padded⟩,
    colon, fun _ => isTimeChar_of_mem_padded⟩, colon, fun _ => isTimeChar_of_mem_padded⟩,
    fun _ => isTimeChar_of_mem_fractionChars⟩

end Timestamp

end RecordStore
