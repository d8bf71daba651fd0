import RecordStore.Proofs.Binary64.Nearest
import RecordStore.Proofs.Filter.Shorthand

/-!
# Numeric filters on integers

An integer of a record and the operand it is compared with are both rounded to floating-point
numbers first, while sorting compares two integers as they are. Rounding keeps the order of
integers, so that the filter only goes wrong where it makes two integers equal, and then if the
relation tells them apart.

* `Binary64.RoundAlike` — integers that rounding makes equal, which below `2 ^ 53` are none;
* `Suffix.Relates` — the relation of integers that a suffix names;
* `Shorthand.integers_compared_iff` — where the filters that the shorthand says are exact.
-/

namespace RecordStore

namespace Binary64

/-- Whether two integers are rounded to the same number. -/
def RoundAlike (i j : Int) : Prop := (ofInt i).equals (ofInt j) = true

variable {i j : Int}

instance : Decidable (RoundAlike i j) := inferInstanceAs (Decidable (_ = true))

theorem roundAlike_iff : RoundAlike i j ↔ intRank i = intRank j :=
  equals_iff (signedRank?_ofInt i) (signedRank?_ofInt j)

theorem intRank_mono (h : i ≤ j) : intRank i ≤ intRank j :=
  le_of_totalKey_le (signedRank?_ofInt i) (signedRank?_ofInt j) (ofInt_mono h)

/-- The integers of at most 53 bits are numbers of the format, one for each. -/
theorem intRank_lt_intRank (hi : i.natAbs ≤ 2 ^ 53) (hj : j.natAbs ≤ 2 ^ 53) (less : i < j) :
    intRank i < intRank j := by
  have one : (0 : Int) < perOne := by exact_mod_cast perOne_pos
  have apart : units (intRank i) < units (intRank j) := by
    rw [units_intRank hi, units_intRank hj]
    exact Int.mul_lt_mul_of_pos_right less one
  rcases Int.lt_trichotomy (intRank i) (intRank j) with below | same | above
  · exact below
  · rw [same] at apart
    omega
  · have := units_lt_units above
    omega

/-- No other integer is rounded to one of less than 53 bits. -/
theorem eq_of_roundAlike (small : i.natAbs < 2 ^ 53) (alike : RoundAlike i j) : i = j := by
  rw [roundAlike_iff] at alike
  -- the neighbour of `i` on the side of `j` is told apart from `i`, and `j` stays beyond it
  rcases Int.lt_trichotomy i j with less | same | greater
  · have next := intRank_lt_intRank (show i.natAbs ≤ 2 ^ 53 by omega)
      (show (i + 1).natAbs ≤ 2 ^ 53 by omega) (by omega)
    have := intRank_mono (show i + 1 ≤ j by omega)
    omega
  · exact same
  · have next := intRank_lt_intRank (show (i - 1).natAbs ≤ 2 ^ 53 by omega)
      (show i.natAbs ≤ 2 ^ 53 by omega) (by omega)
    have := intRank_mono (show j ≤ i - 1 by omega)
    omega

end Binary64

/-! ### Relations of integers -/

namespace Suffix

/-- The relation of an integer to an operand that a suffix names. -/
def Relates : Suffix → Int → Int → Prop
  | .plain, i, j => i = j
  | .greater, i, j => j < i
  | .less, i, j => i < j
  | .greaterEq, i, j => j ≤ i
  | .lessEq, i, j => i ≤ j
  | _, _, _ => False

variable {suffix : Suffix}

/-- A comparison holds between two numbers if the relation holds between their signed ranks. -/
theorem holds_iff_relates {operator : Binary64 → NumericOperator} {x v : Binary64} {j k : Int}
    (names : suffix.comparison? = some operator) (hx : x.signedRank? = some j)
    (hv : v.signedRank? = some k) : (operator v).holds x = true ↔ suffix.Relates j k := by
  cases suffix <;> cases names
  · exact Binary64.equals_iff hx hv
  · exact Binary64.less_iff hv hx
  · exact Binary64.less_iff hx hv
  · exact Binary64.lessOrEqual_iff hv hx
  · exact Binary64.lessOrEqual_iff hx hv

/-- A view of integers that keeps their order respects a relation unless it makes two integers equal
that the relation tells apart. -/
theorem relates_view_iff {view : Int → Int} (mono : ∀ {i j}, i ≤ j → view i ≤ view j) (i j : Int) :
    (suffix.Relates (view i) (view j) ↔ suffix.Relates i j) ↔
      (view i = view j → (suffix.Relates i j ↔ suffix.Relates j j)) := by
  have up := @mono i j
  have down := @mono j i
  cases suffix <;> grind [Relates]

end Suffix

/-! ### Filters that the shorthand says -/

namespace Shorthand

variable {field : String} {record : Record}

/-- A filter of a number is read of the name of a field with a suffix behind it. -/
theorem parse_comparison {suffix : Suffix} {operator : Binary64 → NumericOperator}
    (plain : IsFieldName field) (names : suffix.comparison? = some operator) (n : Int64) :
    parse (.object [(field ++ suffix.text, .ofInt64 n)]) =
      .ok [⟨field, .numeric (operator (.ofInt n.toInt))⟩] :=
  entries_eq_ok_iff.2 (.cons ⟨suffix, plain, rfl, .comparison names _⟩ .nil)

theorem parse_range {low high : Int64} (plain : IsFieldName field)
    (ordered : low.toInt ≤ high.toInt) :
    parse (.object [(field ++ Suffix.range.text, .array [.ofInt64 low, .ofInt64 high])]) =
      .ok [⟨field, .numeric (.between (.ofInt low.toInt) (.ofInt high.toInt))⟩] := by
  have rounded := (Binary64.lessOrEqual_iff (Binary64.signedRank?_ofInt low.toInt)
    (Binary64.signedRank?_ofInt high.toInt)).2 (Binary64.intRank_mono ordered)
  exact entries_eq_ok_iff.2 (.cons ⟨.range, plain, rfl, .range rounded⟩ .nil)

theorem matches_integer {operator : NumericOperator} {m : Int64}
    (present : record.fieldValue? field = some (.integer m)) :
    Filter.matches ⟨field, .numeric operator⟩ record = operator.holds (.ofInt m.toInt) := by
  rw [Filter.matches, present]
  rfl

open Binary64 in
/-- **Integers in numeric filters.** The filter of an integer operand is exact on an integer of a
record unless the two are rounded to one number and the relation tells them apart. The filter of a
range is exact unless the integer lies outside and is rounded like the bound next to it. Integers of
less than 53 bits are not rounded like any other. -/
theorem integers_compared_iff {m : Int64} (plain : IsFieldName field)
    (present : record.fieldValue? field = some (.integer m)) :
    (∀ (suffix : Suffix) (n : Int64), suffix.comparison?.isSome = true →
      ∃ filter : Filter, parse (.object [(field ++ suffix.text, .ofInt64 n)]) = .ok [filter] ∧
        ((filter.matches record = true ↔ suffix.Relates m.toInt n.toInt) ↔
          (RoundAlike m.toInt n.toInt →
            (suffix.Relates m.toInt n.toInt ↔ suffix.Relates n.toInt n.toInt)))) ∧
    (∀ low high : Int64, low.toInt ≤ high.toInt →
      ∃ filter : Filter, parse (.object [(field ++ Suffix.range.text,
          .array [.ofInt64 low, .ofInt64 high])]) = .ok [filter] ∧
        ((filter.matches record = true ↔ low.toInt ≤ m.toInt ∧ m.toInt ≤ high.toInt) ↔
          ¬ (m.toInt < low.toInt ∧ RoundAlike m.toInt low.toInt) ∧
            ¬ (high.toInt < m.toInt ∧ RoundAlike m.toInt high.toInt))) ∧
    ∀ i j : Int, i.natAbs < 2 ^ 53 → RoundAlike i j → i = j := by
  have rank := signedRank?_ofInt
  refine ⟨fun suffix n numeric => ?_, fun low high ordered => ?_, fun i j => eq_of_roundAlike⟩
  · obtain ⟨operator, names⟩ := Option.isSome_iff_exists.1 numeric
    refine ⟨_, parse_comparison plain names n, ?_⟩
    rw [matches_integer present, Suffix.holds_iff_relates names (rank _) (rank _), roundAlike_iff]
    exact Suffix.relates_view_iff intRank_mono _ _
  · refine ⟨_, parse_range plain ordered, ?_⟩
    rw [matches_integer present, NumericOperator.holds, Bool.and_eq_true,
      lessOrEqual_iff (rank _) (rank _), lessOrEqual_iff (rank _) (rank _), roundAlike_iff,
      roundAlike_iff]
    have := @intRank_mono low.toInt m.toInt
    have := @intRank_mono m.toInt low.toInt
    have := @intRank_mono m.toInt high.toInt
    have := @intRank_mono high.toInt m.toInt
    have := intRank_mono ordered
    omega

/-- A record whose field is `2 ^ 53 + 1`, the first integer that is no number of the format. -/
def oddAccount : Record := (Record.new "a").set "account" (.integer 9007199254740993)

/-- A smaller operand is not rounded like that integer, so that the record is found above it. -/
theorem odd_account_compared :
    oddAccount.fieldValue? "account" = some (.integer 9007199254740993) ∧
      ∃ filter : Filter, parse (.object [("account>", .ofInt64 9007199254740991)]) =
          .ok [filter] ∧
        filter.matches oddAccount = true := by
  have present : oddAccount.fieldValue? "account" = some (.integer 9007199254740993) := by rfl
  obtain ⟨comparisons, -, -⟩ := @integers_compared_iff "account" _ _ (by decide) present
  obtain ⟨filter, read, exact⟩ := comparisons .greater 9007199254740991 rfl
  have larger :
      Suffix.greater.Relates (9007199254740993 : Int64).toInt (9007199254740991 : Int64).toInt :=
    show (9007199254740991 : Int64).toInt < (9007199254740993 : Int64).toInt by decide
  exact ⟨present, filter, read, (exact.2 fun alike => absurd alike (by decide +kernel)).2 larger⟩

/-- An equality with `2 ^ 53` finds the record all the same, although the order of sorting tells the
two integers apart. -/
theorem odd_account_is_found :
    ∃ filter : Filter, parse (.object [("account", .ofInt64 9007199254740992)]) = .ok [filter] ∧
      filter.matches oddAccount = true ∧
      oddAccount.fieldValue? "account" = some (.integer 9007199254740993) ∧
      (FieldValue.integer 9007199254740993).compare (.integer 9007199254740992) = .gt :=
  ⟨_, @parse_comparison "account" .plain .equals (by decide) rfl 9007199254740992,
    by decide +kernel, rfl, by decide +kernel⟩

end Shorthand

end RecordStore
