import Mathlib.Data.List.Chain
import RecordStore.Proofs.Binary64.Nearest
import RecordStore.Proofs.Filter

/-!
# Numeric filters and the order of sorting

A numeric filter rounds integers and then compares by the ranks of numbers, to which the two zeros
are the same and a NaN is nothing. Sorting compares two integers as they are and other numbers by
the total order. Rounding keeps the order of integers and the total order only tells more numbers
apart, so that the two never contradict each other: a number of smaller rank is sorted first.

* `NumericOperator.Admits`, `Filter.matchesValue_numeric_iff` — numeric filters on ranks;
* `FieldValue.compare_eq_gt` — sorting numbers of different ranks;
* `Filter.numbers_ordered` — filters of one operand, against each other and against sorting;
* `Filter.filter_append_filter` — an operand cuts a sorted list in two.
-/

namespace RecordStore

namespace Binary64

variable {x y : Binary64} {j k : Int}

/-- Numbers of different signed ranks have places in the total order as their ranks have. -/
theorem totalKey_lt (hx : x.signedRank? = some j) (hy : y.signedRank? = some k) (less : j < k) :
    x.totalKey < y.totalKey := by
  by_contra above
  have := le_of_totalKey_le hy hx (Int.not_lt.1 above)
  omega

/-- Only numbers with a rank compare. -/
theorem compare?_eq_some_iff {outcome : Ordering} :
    x.compare? y = some outcome ↔
      ∃ j k, x.signedRank? = some j ∧ y.signedRank? = some k ∧ Ord.compare j k = outcome := by
  rw [compare?]
  cases x.signedRank? <;> cases y.signedRank? <;> simp

theorem less_iff_exists :
    x.less y = true ↔ ∃ j k, x.signedRank? = some j ∧ y.signedRank? = some k ∧ j < k := by
  simp only [less, beq_iff_eq, compare?_eq_some_iff, Int.compare_eq_lt]

theorem equals_iff_exists :
    x.equals y = true ↔ ∃ j, x.signedRank? = some j ∧ y.signedRank? = some j := by
  simp only [equals, beq_iff_eq, compare?_eq_some_iff, Std.LawfulEqCmp.compare_eq_iff_eq]
  constructor
  · rintro ⟨j, _, hx, hy, rfl⟩
    exact ⟨j, hx, hy⟩
  · rintro ⟨j, hx, hy⟩
    exact ⟨j, j, hx, hy, rfl⟩

theorem lessOrEqual_iff_exists :
    x.lessOrEqual y = true ↔ ∃ j k, x.signedRank? = some j ∧ y.signedRank? = some k ∧ j ≤ k := by
  rw [lessOrEqual, Bool.or_eq_true, less_iff_exists, equals_iff_exists]
  constructor
  · rintro (⟨j, k, hx, hy, less⟩ | ⟨j, hx, hy⟩)
    · exact ⟨j, k, hx, hy, Int.le_of_lt less⟩
    · exact ⟨j, j, hx, hy, Int.le_refl j⟩
  · rintro ⟨j, k, hx, hy, le⟩
    rcases Int.lt_or_eq_of_le le with less | rfl
    · exact .inl ⟨j, k, hx, hy, less⟩
    · exact .inr ⟨j, hx, hy⟩

end Binary64

/-! ### Numbers as field values -/

namespace FieldValue

variable {a b : FieldValue} {j k : Int}

/-- The signed rank of a number, that of an integer after rounding. A NaN has none. -/
def rank? (value : FieldValue) : Option Int := value.asBinary64?.bind Binary64.signedRank?

theorem rank?_eq_some_iff :
    a.rank? = some j ↔ ∃ x, a.asBinary64? = some x ∧ x.signedRank? = some j :=
  Option.bind_eq_some_iff

/-- Just the numbers other than the two NaNs have a rank. -/
theorem exists_rank?_iff :
    (∃ j, a.rank? = some j) ↔ a.isNumeric = true ∧ ∀ negative, a ≠ .float (.nan negative) := by
  cases a with
  | integer i => simp [rank?, asBinary64?, isNumeric, Binary64.signedRank?_ofInt]
  | float x => cases x <;> simp [rank?, asBinary64?, isNumeric, Binary64.signedRank?]
  | _ => simp [rank?, asBinary64?, isNumeric]

/-- Of two numbers of different ranks the one of the larger rank is sorted last. -/
theorem compare_eq_gt (ha : a.rank? = some j) (hb : b.rank? = some k) (less : k < j) :
    a.compare b = .gt := by
  obtain ⟨x, hx, hj⟩ := rank?_eq_some_iff.1 ha
  obtain ⟨y, hy, hk⟩ := rank?_eq_some_iff.1 hb
  have after : x.totalCompare y = .gt := Int.compare_eq_gt.2 (Binary64.totalKey_lt hk hj less)
  cases a <;> cases hx <;> cases b <;> cases hy
  case integer.refl.integer.refl m n =>
    -- integers in the other order would have been rounded to ranks in that order
    have below : n.toInt < m.toInt := by
      by_contra above
      have := Binary64.le_of_totalKey_le hj hk (Binary64.ofInt_mono (Int.not_lt.1 above))
      omega
    exact Int.compare_eq_gt.2 below
  all_goals exact after

end FieldValue

/-! ### Numeric filters -/

/-- Whether an operator holds of the numbers of a signed rank. -/
def NumericOperator.Admits : NumericOperator → Int → Prop
  | .equals v, j => v.signedRank? = some j
  | .greaterThan v, j => ∃ k, v.signedRank? = some k ∧ k < j
  | .lessThan v, j => ∃ k, v.signedRank? = some k ∧ j < k
  | .greaterOrEqual v, j => ∃ k, v.signedRank? = some k ∧ k ≤ j
  | .lessOrEqual v, j => ∃ k, v.signedRank? = some k ∧ j ≤ k
  | .between low high, j => (∃ k, low.signedRank? = some k ∧ k ≤ j) ∧
      ∃ k, high.signedRank? = some k ∧ j ≤ k

namespace NumericOperator

variable {operator : NumericOperator} {v x : Binary64} {j k : Int}

open Binary64 in
theorem holds_iff : operator.holds x = true ↔ ∃ j, x.signedRank? = some j ∧ operator.Admits j := by
  cases operator with
  | between low high =>
    simp only [holds, Admits, Bool.and_eq_true, lessOrEqual_iff_exists]
    constructor
    · rintro ⟨⟨k, j, hk, hj, le⟩, j', k', hj', hk', le'⟩
      obtain rfl : j = j' := Option.some.inj (hj.symm.trans hj')
      exact ⟨j, hj, ⟨k, hk, le⟩, k', hk', le'⟩
    · rintro ⟨j, hj, ⟨k, hk, le⟩, k', hk', le'⟩
      exact ⟨⟨k, j, hk, hj, le⟩, j, k', hj, hk', le'⟩
  | equals v => exact equals_iff_exists
  | _ v =>
    simp only [holds, Admits, less_iff_exists, lessOrEqual_iff_exists]
    grind

/-- The operator that asks for an outcome of the comparison with an operand. -/
def asking (v : Binary64) : Ordering → NumericOperator
  | .lt => .lessThan v
  | .eq => .equals v
  | .gt => .greaterThan v

theorem mem_asking_iff :
    operator ∈ [.lessThan v, .equals v, .greaterThan v] ↔ ∃ outcome, operator = asking v outcome := by
  simp only [List.mem_cons, List.not_mem_nil, or_false]
  constructor
  · rintro (rfl | rfl | rfl)
    · exact ⟨.lt, rfl⟩
    · exact ⟨.eq, rfl⟩
    · exact ⟨.gt, rfl⟩
  · rintro ⟨_ | _ | _, rfl⟩ <;> simp [asking]

theorem admits_asking_iff (hk : v.signedRank? = some k) (outcome : Ordering) :
    (asking v outcome).Admits j ↔ Ord.compare j k = outcome := by
  cases outcome with
  | lt => simp [asking, Admits, hk, Int.compare_eq_lt]
  | eq => rw [asking, Admits, hk, Option.some.injEq, Std.LawfulEqCmp.compare_eq_iff_eq, eq_comm]
  | gt => simp [asking, Admits, hk, Int.compare_eq_gt]

end NumericOperator

namespace Filter

variable {field : String} {operator : NumericOperator} {value : FieldValue} {v : Binary64}

/-- A numeric filter goes by the rank of a value. -/
theorem matchesValue_numeric_iff :
    matchesValue ⟨field, .numeric operator⟩ value = true ↔
      ∃ j, value.rank? = some j ∧ operator.Admits j := by
  rw [matchesValue, Condition.holds_numeric_iff]
  simp only [NumericOperator.holds_iff, FieldValue.rank?_eq_some_iff]
  constructor
  · rintro ⟨x, read, j, hx, admits⟩
    exact ⟨j, ⟨x, read, hx⟩, admits⟩
  · rintro ⟨j, ⟨x, read, hx⟩, admits⟩
    exact ⟨x, read, j, hx, admits⟩

/-- A range asks what its two ends ask one by one. -/
theorem matchesValue_between_iff {low high : Binary64} :
    matchesValue ⟨field, .numeric (.between low high)⟩ value = true ↔
      matchesValue ⟨field, .numeric (.greaterOrEqual low)⟩ value = true ∧
        matchesValue ⟨field, .numeric (.lessOrEqual high)⟩ value = true := by
  simp only [matchesValue_numeric_iff, NumericOperator.Admits]
  grind

/-- What a filter finds above an operand is sorted behind all that the opposite filter finds below
it, whichever of the two takes the operand itself. -/
theorem compare_eq_gt_of_matches {a b : FieldValue}
    (apart : matchesValue ⟨field, .numeric (.greaterThan v)⟩ a = true ∧
        matchesValue ⟨field, .numeric (.lessOrEqual v)⟩ b = true ∨
      matchesValue ⟨field, .numeric (.greaterOrEqual v)⟩ a = true ∧
        matchesValue ⟨field, .numeric (.lessThan v)⟩ b = true) :
    a.compare b = .gt := by
  simp only [matchesValue_numeric_iff] at apart
  obtain ⟨⟨i, ha, k, hk, above⟩, j, hb, k', hk', below⟩ |
    ⟨⟨i, ha, k, hk, above⟩, j, hb, k', hk', below⟩ := apart
  all_goals
    obtain rfl : k = k' := Option.some.inj (hk.symm.trans hk')
    exact FieldValue.compare_eq_gt ha hb (by omega)

/-- The outcomes of a comparison exclude each other, so that just one of the filters that ask for
them finds a number. -/
theorem existsUnique_operator_iff (finite : v.isFinite = true) :
    (∃! operator, operator ∈ [NumericOperator.lessThan v, .equals v, .greaterThan v] ∧
      matchesValue ⟨field, .numeric operator⟩ value = true) ↔ ∃ j, value.rank? = some j := by
  simp only [NumericOperator.mem_asking_iff, matchesValue_numeric_iff]
  constructor
  · rintro ⟨operator, ⟨-, j, hj, -⟩, -⟩
    exact ⟨j, hj⟩
  · rintro ⟨j, hj⟩
    obtain ⟨k, hk⟩ := Binary64.exists_signedRank_of_isFinite finite
    have asked := @NumericOperator.admits_asking_iff v j k hk
    refine ⟨.asking v (Ord.compare j k), ⟨⟨_, rfl⟩, j, hj, (asked _).2 rfl⟩, ?_⟩
    rintro _ ⟨⟨outcome, rfl⟩, j', hj', admits⟩
    obtain rfl : j = j' := Option.some.inj (hj.symm.trans hj')
    rw [(asked outcome).1 admits]

/-- A number is found on one side of a finite operand or on the other. -/
theorem matchesValue_greaterThan_eq (field : String) (finite : v.isFinite = true) {j : Int}
    (hj : value.rank? = some j) :
    matchesValue ⟨field, .numeric (.greaterThan v)⟩ value =
      !matchesValue ⟨field, .numeric (.lessOrEqual v)⟩ value := by
  obtain ⟨k, hk⟩ := Binary64.exists_signedRank_of_isFinite finite
  rw [Bool.eq_iff_iff, Bool.not_eq_true', ← Bool.not_eq_true, matchesValue_numeric_iff,
    matchesValue_numeric_iff]
  simp [NumericOperator.Admits, hj, hk]

section Sorted

variable {a : FieldValue} {values : List FieldValue} (finite : v.isFinite = true)
include finite

/-- Behind a number that is found above an operand there are only such numbers. -/
theorem forall_above_of_above (numbers : ∀ value ∈ values, ∃ j, value.rank? = some j)
    (sorted : (a :: values).IsChain fun a b => a.compare b ≠ .gt)
    (above : matchesValue ⟨field, .numeric (.greaterThan v)⟩ a = true) :
    ∀ b ∈ values, matchesValue ⟨field, .numeric (.greaterThan v)⟩ b = true := by
  induction values generalizing a with
  | nil => exact List.forall_mem_nil _
  | cons b rest ih =>
    obtain ⟨⟨j, hj⟩, numbers⟩ := List.forall_mem_cons.1 numbers
    obtain ⟨next, sorted⟩ := List.isChain_cons_cons.1 sorted
    have next_above : matchesValue ⟨field, .numeric (.greaterThan v)⟩ b = true := by
      rw [matchesValue_greaterThan_eq field finite hj, Bool.not_eq_true', ← Bool.not_eq_true]
      exact fun below => next (compare_eq_gt_of_matches (.inl ⟨above, below⟩))
    exact List.forall_mem_cons.2 ⟨next_above, ih numbers sorted next_above⟩

/-- A finite operand cuts a list of numbers in two, if no number of the list is sorted behind the
one that follows it. -/
theorem filter_append_filter (field : String)
    (numbers : ∀ value ∈ values, ∃ j, value.rank? = some j)
    (sorted : values.IsChain fun a b => a.compare b ≠ .gt) :
    values.filter (matchesValue ⟨field, .numeric (.lessOrEqual v)⟩) ++
      values.filter (matchesValue ⟨field, .numeric (.greaterThan v)⟩) = values := by
  induction values with
  | nil => rfl
  | cons a rest ih =>
    obtain ⟨⟨j, hj⟩, others⟩ := List.forall_mem_cons.1 numbers
    have opposite {value : FieldValue} {j : Int} (hj : value.rank? = some j) :=
      matchesValue_greaterThan_eq field finite hj
    by_cases below : matchesValue ⟨field, .numeric (.lessOrEqual v)⟩ a = true
    · rw [List.filter_cons_of_pos below, List.filter_cons_of_neg (by simp [opposite hj, below]),
        List.cons_append, ih others sorted.tail]
    · have above : matchesValue ⟨field, .numeric (.greaterThan v)⟩ a = true := by
        simp [opposite hj, below]
      have behind := forall_above_of_above finite others sorted above
      have none_below : rest.filter (matchesValue ⟨field, .numeric (.lessOrEqual v)⟩) = [] := by
        refine List.filter_eq_nil_iff.2 fun b hb found => ?_
        obtain ⟨j, hj⟩ := others b hb
        simpa [opposite hj, found] using behind b hb
      rw [List.filter_cons_of_neg below, none_below, List.nil_append,
        List.filter_cons_of_pos above, List.filter_eq_self.2 behind]

end Sorted

/-- **Filters and sorting agree on numbers.** What is found above an operand is sorted behind what
the opposite filter finds below it, whichever of the two takes the operand itself. A value is found
by exactly one of the filters that ask for less than a finite operand, for the operand and for more,
just if it is a number other than a NaN. A range finds what the filters of its two ends both find.
Integers that are rounded are no exception. -/
theorem numbers_ordered (field : String) :
    (∀ (v : Binary64) (a b : FieldValue),
      matchesValue ⟨field, .numeric (.greaterThan v)⟩ a = true ∧
          matchesValue ⟨field, .numeric (.lessOrEqual v)⟩ b = true ∨
        matchesValue ⟨field, .numeric (.greaterOrEqual v)⟩ a = true ∧
          matchesValue ⟨field, .numeric (.lessThan v)⟩ b = true →
      a.compare b = .gt) ∧
    (∀ v : Binary64, v.isFinite = true → ∀ value : FieldValue,
      (∃! operator, operator ∈ [NumericOperator.lessThan v, .equals v, .greaterThan v] ∧
          matchesValue ⟨field, .numeric operator⟩ value = true) ↔
        value.isNumeric = true ∧ ∀ negative, value ≠ .float (.nan negative)) ∧
    ∀ (low high : Binary64) (value : FieldValue),
      matchesValue ⟨field, .numeric (.between low high)⟩ value = true ↔
        matchesValue ⟨field, .numeric (.greaterOrEqual low)⟩ value = true ∧
          matchesValue ⟨field, .numeric (.lessOrEqual high)⟩ value = true := by
  refine ⟨fun v a b apart => compare_eq_gt_of_matches apart, fun v finite value => ?_,
    fun low high value => matchesValue_between_iff⟩
  rw [existsUnique_operator_iff finite, FieldValue.exists_rank?_iff]

/-- The integer `2 ^ 53 + 1` is rounded to `2 ^ 53` and found at it, its successor is found above it
and sorted behind; and a range that begins and ends at zero takes the negative zero. -/
theorem large_accounts_ordered :
    let v : Binary64 := .ofInt 9007199254740992
    let odd : FieldValue := .integer 9007199254740993
    let even : FieldValue := .integer 9007199254740994
    even.compare odd = .gt ∧
      (∃! operator, operator ∈ [NumericOperator.lessThan v, .equals v, .greaterThan v] ∧
        matchesValue ⟨"account", .numeric operator⟩ odd = true) ∧
      matchesValue ⟨"account", .numeric (.equals v)⟩ odd = true ∧
      matchesValue ⟨"account", .numeric (.between .zero .zero)⟩ (.float (.ofRank true 0)) =
        true := by
  intro v odd even
  obtain ⟨apart, one, range⟩ := numbers_ordered "account"
  have above : matchesValue ⟨"account", .numeric (.greaterThan v)⟩ even = true := by decide +kernel
  have below : matchesValue ⟨"account", .numeric (.lessOrEqual v)⟩ odd = true := by decide +kernel
  refine ⟨apart v even odd (.inl ⟨above, below⟩), ?_, by decide +kernel, ?_⟩
  · exact (one v (by decide +kernel) odd).2 ⟨rfl, fun negative => nofun⟩
  · exact (range _ _ _).2 ⟨by decide +kernel, by decide +kernel⟩

end Filter

end RecordStore
