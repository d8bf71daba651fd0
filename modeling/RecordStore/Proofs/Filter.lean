import Mathlib.Algebra.Group.Int.Defs
import Mathlib.Algebra.Group.Nat.Defs
import RecordStore.Filter.Basic
import RecordStore.Proofs.Error

/-!
# Filters on values that were stored

A backend keeps field values in their JSON form, and a filter sees what is read from it: a text, a
number, rounded if it is a large integer, or a Boolean. A condition holds of such a value only if
the JSON is of the condition's type.

* `Filter.matches_iff` — a filter asks its condition of the value of its field;
* `Condition.holds_text_iff`, `Condition.holds_numeric_iff` — conditions on values;
* `Condition.holds_text_ofJson_iff`, `Condition.holds_numeric_ofJson_iff`,
  `Condition.holds_boolean_ofJson_iff` — conditions on values that are read from JSON;
* `Filter.validate_eq_ok_iff`, `Filter.isFinite_of_valid` — valid filters and their operands.
-/

namespace RecordStore

/-! ### Values -/

namespace FieldValue

variable {v : Json}

/-- A number is read as an integer if it is one of 64 bits; either way it is rounded only once. -/
theorem asBinary64?_ofJson_number (n : JsonNumber) :
    (ofJson (.number n)).asBinary64? = some (binary64Of n) := by
  cases n with
  | float x finite => rfl
  | integer i bounded =>
    by_cases small : i < 2 ^ 63
    · have kept : (Int64.ofInt i).toInt = i := Int64.toInt_ofInt_of_le bounded.1 small
      simp only [ofJson, integerOf?, if_pos small, asBinary64?, kept, binary64Of]
    · simp only [ofJson, integerOf?, if_neg small, asBinary64?]

theorem asBinary64?_ofJson_eq_some_iff {x : Binary64} :
    (ofJson v).asBinary64? = some x ↔ ∃ n, v = .number n ∧ binary64Of n = x := by
  cases v with
  | number n => simp [asBinary64?_ofJson_number]
  | _ => simp [ofJson, asBinary64?]

theorem asText?_ofJson_eq_some_iff {s : String} : (ofJson v).asText? = some s ↔ v = .text s := by
  cases v with
  | number n => cases h : integerOf? n <;> simp [ofJson, h, asText?]
  | _ => simp [ofJson, asText?]

theorem asBoolean?_ofJson_eq_some_iff {b : Bool} :
    (ofJson v).asBoolean? = some b ↔ v = .bool b := by
  cases v with
  | number n => cases h : integerOf? n <;> simp [ofJson, h, asBoolean?]
  | _ => simp [ofJson, asBoolean?]

end FieldValue

/-! ### Conditions -/

/-- The relation of two texts, as they are or without regard to case. -/
def TextOperator.relates (operator : TextOperator) (ignoreCase : Bool) (s operand : String) :
    Bool :=
  if ignoreCase then operator.holds (Text.lowercase s) (Text.lowercase operand)
  else operator.holds s operand

namespace Condition

variable {value : FieldValue} {v : Json}

theorem holds_text_iff {operator : TextOperator} {operand : String} {ignoreCase : Bool} :
    (text operator operand ignoreCase).holds value = true ↔
      ∃ s, value.asText? = some s ∧ operator.relates ignoreCase s operand = true := by
  rw [holds]
  cases value.asText? <;> simp [TextOperator.relates]

theorem holds_numeric_iff {operator : NumericOperator} :
    (numeric operator).holds value = true ↔
      ∃ x, value.asBinary64? = some x ∧ operator.holds x = true := by
  rw [holds]
  cases value.asBinary64? <;> simp

theorem holds_text_ofJson_iff {operator : TextOperator} {operand : String} {ignoreCase : Bool} :
    (text operator operand ignoreCase).holds (.ofJson v) = true ↔
      ∃ s, v = .text s ∧ operator.relates ignoreCase s operand = true := by
  simp only [holds_text_iff, FieldValue.asText?_ofJson_eq_some_iff]

theorem holds_numeric_ofJson_iff {operator : NumericOperator} :
    (numeric operator).holds (.ofJson v) = true ↔
      ∃ n, v = .number n ∧ operator.holds (FieldValue.binary64Of n) = true := by
  simp only [holds_numeric_iff, FieldValue.asBinary64?_ofJson_eq_some_iff]
  constructor
  · rintro ⟨_, ⟨n, rfl, rfl⟩, h⟩
    exact ⟨n, rfl, h⟩
  · rintro ⟨n, rfl, h⟩
    exact ⟨_, ⟨n, rfl, rfl⟩, h⟩

theorem holds_boolean_ofJson_iff {operand : Bool} :
    (boolean operand).holds (.ofJson v) = true ↔ v = .bool operand := by
  rw [holds, beq_iff_eq, FieldValue.asBoolean?_ofJson_eq_some_iff]

end Condition

/-! ### Filters -/

/-- An operator has no fault if its operands are finite and bounds are not reversed. -/
theorem NumericOperator.fault?_eq_none_iff {operator : NumericOperator} :
    operator.fault? = none ↔ (∀ v ∈ operator.operands, v.isFinite = true) ∧
      ∀ low high, operator = .between low high → high.less low = false := by
  have checked : (if operator.operands.all Binary64.isFinite then none
      else some FilterFault.notFinite) = none ↔ ∀ v ∈ operator.operands, v.isFinite = true := by
    rw [← List.all_eq_true]
    cases operator.operands.all Binary64.isFinite <;> simp
  cases operator with
  | between low high =>
    rw [fault?, ← checked]
    cases reversed : high.less low <;> simp [reversed]
  | _ v => simp [fault?]

namespace Filter

variable {filter : Filter} {record : Record}

theorem matches_iff :
    filter.matches record = true ↔
      ∃ value, record.fieldValue? filter.field = some value ∧
        filter.condition.holds value = true := by
  cases h : record.fieldValue? filter.field <;> simp [«matches», h, matchesValue]

/-- Where the field is read from a JSON value that may be missing. -/
theorem matches_iff_of_read {stored : Option Json}
    (read : record.fieldValue? filter.field = stored.map FieldValue.ofJson) :
    filter.matches record = true ↔
      ∃ v, stored = some v ∧ filter.condition.holds (.ofJson v) = true := by
  rw [matches_iff, read]
  cases stored <;> simp

/-- A filter is valid if its field has a name and, if it is numeric, its operator has no fault. -/
theorem validate_eq_ok_iff :
    filter.validate = .ok () ↔ Text.isBlankText filter.field = false ∧
      ∀ operator, filter.condition = .numeric operator → operator.fault? = none := by
  rw [validate]
  cases Text.isBlankText filter.field with
  | true => simp
  | false =>
    rw [if_neg Bool.false_ne_true]
    cases filter.condition with
    | numeric operator => cases h : operator.fault? <;> simp [h]
    | text operator operand ignoreCase => simp
    | boolean operand => simp

theorem failsOnlyWith_validate (filter : Filter) :
    FailsOnlyWith StoreError.IsInvalidFilter filter.validate := by
  rw [validate]
  split
  · exact .of_error (FilterFault.isInvalidFilter_on _ _)
  · split
    · split
      · exact .of_error (FilterFault.isInvalidFilter_on _ _)
      · exact .of_ok _
    · exact .of_ok _

theorem fault?_eq_none_of_valid {operator : NumericOperator} (valid : filter.validate = .ok ())
    (numeric : filter.condition = .numeric operator) : operator.fault? = none :=
  (validate_eq_ok_iff.1 valid).2 operator numeric

/-- The operands of a valid numeric filter are finite. -/
theorem isFinite_of_valid {operator : NumericOperator} (valid : filter.validate = .ok ())
    (numeric : filter.condition = .numeric operator) :
    ∀ v ∈ operator.operands, v.isFinite = true :=
  (NumericOperator.fault?_eq_none_iff.1 (fault?_eq_none_of_valid valid numeric)).1

end Filter

/-- A set of filters is valid if each of them is. -/
theorem FilterSet.validate_eq_ok_iff {filters : FilterSet} :
    FilterSet.validate filters = .ok () ↔ ∀ filter ∈ filters, filter.validate = .ok () := by
  induction filters with
  | nil => simp [validate]
  | cons filter rest ih =>
    rw [validate, List.forall_mem_cons, ← ih]
    cases filter.validate <;> simp

theorem FilterSet.failsOnlyWith_validate (filters : FilterSet) :
    FailsOnlyWith StoreError.IsInvalidFilter (FilterSet.validate filters) := by
  induction filters with
  | nil => exact .of_ok _
  | cons filter rest ih =>
    rw [validate]
    split
    · next refused => exact .of_error (filter.failsOnlyWith_validate _ refused)
    · exact ih

end RecordStore
