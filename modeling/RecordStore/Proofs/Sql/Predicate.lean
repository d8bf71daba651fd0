import Mathlib.Data.List.Infix
import RecordStore.Proofs.Ordering
import RecordStore.Sql.Selection

/-!
# What the predicates of operators mean

On a row whose column holds a text or a number, the predicate of an operator has the truth value of
the operator itself.

* `textPosition_pos_iff` — a part occurs in a text exactly if it has a place there;
* `TextOperator.truth_rowPredicate`, `NumericOperator.truth_rowPredicate` — the operators;
* `SqlPredicate.selects_and` — a conjunction selects what both of its sides select.
-/

namespace RecordStore

variable {row : StoredRow} {column : JsonColumn}

/-! ### Conjunctions -/

namespace SqlPredicate

variable {a b : SqlPredicate}

theorem selects_iff : a.selects row = true ↔ a.truth row = .ok (some true) := by
  unfold selects
  split
  · next h => simp [h]
  · next h =>
    constructor
    · exact nofun
    · intro h'
      exact absurd h' h

theorem truth_and {x y : Truth} (ha : a.truth row = .ok x) (hb : b.truth row = .ok y) :
    (and a b).truth row = .ok (x.and y) := by
  rw [truth, ha, hb]
  rfl

theorem and_eq_true_iff {x y : Truth} : x.and y = some true ↔ x = some true ∧ y = some true := by
  rcases x with _ | _ | _ <;> rcases y with _ | _ | _ <;> decide

theorem selects_and :
    (and a b).selects row = true ↔ a.selects row = true ∧ b.selects row = true := by
  rw [selects_iff, selects_iff, selects_iff, truth]
  cases ha : a.truth row with
  | error e => simp [bind, Except.bind]
  | ok x =>
    cases hb : b.truth row with
    | error e => simp [bind, Except.bind]
    | ok y => simp [bind, Except.bind, and_eq_true_iff]

/-- The value of a guarded predicate counts only where the guard is true. -/
theorem truth_guarded {guard value : SqlPredicate} {x : Truth} (h : guard.truth row = .ok x) :
    (guarded guard value).truth row =
      if x = some true then value.truth row else .ok (some false) := by
  rw [truth, h]
  rcases x with _ | _ | _ <;> rfl

end SqlPredicate

/-! ### Texts -/

theorem textPosition_pos_iff (part text : List Char) :
    0 < textPosition part text ↔ Text.occursIn part text = true := by
  induction text with
  | nil => cases part <;> simp [textPosition, Text.occursIn]
  | cons c cs ih =>
    rw [textPosition, Text.occursIn, Bool.or_eq_true]
    by_cases h : part.isPrefixOf (c :: cs) = true
    · simp [h]
    · rw [if_neg h, ← ih]
      cases textPosition part cs with
      | zero => simp [h]
      | succ n => simp

/-- The beginning of a text is an operand exactly if the operand is a prefix. -/
theorem take_length_eq_iff (text operand : String) :
    (String.ofList (text.toList.take operand.length) == operand) =
      operand.toList.isPrefixOf text.toList := by
  rw [Bool.eq_iff_iff, beq_iff_eq, List.isPrefixOf_iff_prefix, List.prefix_iff_eq_take,
    ← String.toList_inj, String.toList_ofList, String.length_toList]
  exact eq_comm

/-- The end of a text is an operand exactly if the operand is a suffix. -/
theorem drop_length_eq_iff (text operand : String) :
    (String.ofList (text.toList.drop (text.length - operand.length)) == operand) =
      operand.toList.isSuffixOf text.toList := by
  rw [Bool.eq_iff_iff, beq_iff_eq, List.isSuffixOf_iff_suffix, List.suffix_iff_eq_drop,
    ← String.toList_inj, String.toList_ofList, String.length_toList, String.length_toList]
  exact eq_comm

theorem TextOperator.truth_rowPredicate (operator : TextOperator) (operand : String) {s : String}
    (h : column.value? row = some (.text s)) :
    (operator.rowPredicate (.unquoted column) operand).truth row =
      .ok (some (operator.holds s operand)) := by
  have text : (TextExpr.unquoted column).value? row = some s := by
    rw [TextExpr.value?, h]
    rfl
  cases operator with
  | equals => rw [rowPredicate, SqlPredicate.truth, text]; rfl
  | notEquals => rw [rowPredicate, SqlPredicate.truth, text]; rfl
  | contains =>
    have occurs : decide (0 < textPosition operand.toList s.toList) =
        Text.occursIn operand.toList s.toList := by
      rw [Bool.eq_iff_iff, decide_eq_true_iff]
      exact textPosition_pos_iff _ _
    rw [rowPredicate, SqlPredicate.truth, text, holds, ← occurs]
    rfl
  | startsWith =>
    have beginning : (TextExpr.left (.unquoted column) (.operand operand)).value? row =
        some (String.ofList (s.toList.take operand.length)) := by
      rw [TextExpr.value?, text]
      rfl
    rw [rowPredicate, SqlPredicate.truth, beginning, holds, ← take_length_eq_iff]
    rfl
  | endsWith =>
    have ending : (TextExpr.right (.unquoted column) (.operand operand)).value? row =
        some (String.ofList (s.toList.drop (s.length - operand.length))) := by
      rw [TextExpr.value?, text]
      rfl
    rw [rowPredicate, SqlPredicate.truth, ending, holds, ← drop_length_eq_iff]
    rfl

/-- The comparison of texts never fails. -/
theorem TextOperator.exists_truth (operator : TextOperator) (text : TextExpr) (operand : String) :
    ∃ t, (operator.rowPredicate text operand).truth row = .ok t := by
  cases operator <;> exact ⟨_, rfl⟩

/-! ### Numbers -/

/-- The comparisons in the order of the filters, in which a NaN stands in no relation. -/
def Comparison.inOrder (comparison : Comparison) (x y : Binary64) : Bool :=
  match comparison with
  | .equal => x.equals y
  | .greater => y.less x
  | .less => x.less y
  | .greaterOrEqual => y.lessOrEqual x
  | .lessOrEqual => x.lessOrEqual y

/-- On numbers that are no NaN the order of a database is that of the filters. -/
theorem Comparison.holds_of_ranks {x y : Binary64} {a b : Int} (hx : x.signedRank? = some a)
    (hy : y.signedRank? = some b) (comparison : Comparison) :
    comparison.holds x y = comparison.inOrder x y := by
  have compared : x.compare? y = some (Ord.compare a b) := by rw [Binary64.compare?, hx, hy]
  have swapped : y.compare? x = some (Ord.compare b a) := by rw [Binary64.compare?, hx, hy]
  have inSql : x.sqlCompare y = Ord.compare a b := by rw [Binary64.sqlCompare, compared]
  have swap : Ord.compare b a = (Ord.compare a b).swap := Std.OrientedCmp.eq_swap
  simp only [holds, inOrder, inSql, Binary64.equals, Binary64.less, Binary64.lessOrEqual, compared,
    swapped, swap]
  cases comparison <;> cases Ord.compare a b <;> rfl

theorem exists_signedRank_binary64Of (n : JsonNumber) :
    ∃ r, (FieldValue.binary64Of n).signedRank? = some r := by
  cases n with
  | integer i bounded => exact ⟨_, rfl⟩
  | float x finite => exact Binary64.exists_signedRank_of_isFinite finite

theorem Json.castNumber_number (n : JsonNumber) :
    Json.castNumber (.number n) = .ok (FieldValue.binary64Of n) := by
  cases n <;> rfl

/-- On numbers the comparisons of the database are those of the filters, as long as the operands
are finite. -/
theorem NumericOperator.truth_rowPredicate {operator : NumericOperator}
    (finite : ∀ v ∈ operator.operands, v.isFinite = true) {n : JsonNumber}
    (h : column.value? row = some (.number n)) :
    (operator.rowPredicate column).truth row =
      .ok (some (operator.holds (FieldValue.binary64Of n))) := by
  obtain ⟨a, number⟩ := exists_signedRank_binary64Of n
  have cast := Json.castNumber_number n
  -- a finite operand has a place in the order, and so the two orders agree on it
  have single (comparison : Comparison) {v : Binary64} (mem : v ∈ operator.operands) :
      (SqlPredicate.number column comparison v).truth row =
        .ok (some (comparison.inOrder (FieldValue.binary64Of n) v)) := by
    obtain ⟨b, bounded⟩ := Binary64.exists_signedRank_of_isFinite (finite v mem)
    rw [SqlPredicate.truth, h, SqlPredicate.castTest, cast,
      ← Comparison.holds_of_ranks number bounded]
    rfl
  cases operator with
  | between low high =>
    obtain ⟨l, lower⟩ := Binary64.exists_signedRank_of_isFinite (finite low (by simp [operands]))
    obtain ⟨u, upper⟩ := Binary64.exists_signedRank_of_isFinite (finite high (by simp [operands]))
    have above := Comparison.holds_of_ranks number lower .greaterOrEqual
    have below := Comparison.holds_of_ranks number upper .lessOrEqual
    rw [rowPredicate, SqlPredicate.truth, h, SqlPredicate.castTest, cast, Except.map, above, below]
    rfl
  | _ v => exact single _ List.mem_cons_self

end RecordStore
