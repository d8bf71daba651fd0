import RecordStore.Document.Condition
import RecordStore.List.Params

/-!
# Selecting documents by list parameters

Filters as conditions on documents. Every condition begins with a test of the type, so a document
whose field is missing or of another kind is not selected.

* `Filter.documentCondition` — the condition of a filter;
* `ListParams.selection` — the query for the documents of a tenant that all filters select.
-/

namespace RecordStore

/-- The test that a text stands in a relation to an operand. Without regard to case even equality is
asked for by a pattern. -/
def TextOperator.documentTest (operator : TextOperator) (operand : String) (ignoreCase : Bool) :
    DocumentTest :=
  match operator, ignoreCase with
  | .equals, false => .equals (.text operand)
  | .notEquals, false => .differs (.text operand)
  | .equals, true => .fits ⟨operand, true, true, true⟩
  | .notEquals, true => .fitsNot ⟨operand, true, true, true⟩
  | .contains, _ => .fits ⟨operand, false, false, ignoreCase⟩
  | .startsWith, _ => .fits ⟨operand, true, false, ignoreCase⟩
  | .endsWith, _ => .fits ⟨operand, false, true, ignoreCase⟩

/-- The tests that a number stands in a relation. -/
def NumericOperator.documentTests : NumericOperator → List DocumentTest
  | .equals v => [.equals (.double v)]
  | .greaterThan v => [.number .above v]
  | .lessThan v => [.number .below v]
  | .greaterOrEqual v => [.number .atLeast v]
  | .lessOrEqual v => [.number .atMost v]
  | .between low high => [.number .atLeast low, .number .atMost high]

/-- The condition of a filter. -/
def Filter.documentCondition (filter : Filter) : DocumentCondition :=
  ⟨fieldPath filter.field, match filter.condition with
    | .text operator operand ignoreCase =>
      [.typeIs .string, operator.documentTest operand ignoreCase]
    | .numeric operator => .typeIs .number :: operator.documentTests
    | .boolean operand => [.typeIs .boolean, .equals (.boolean operand)]⟩

namespace ListParams

/-- The query for the documents of a tenant that the filters select. -/
def selection (params : ListParams) (tenant : Tenant) : BsonDocument :=
  ("tenant_id", .text tenant.name) ::
    match params.filters with
    | [] => []
    | filters =>
      [("$and", .array (filters.map fun filter => .document filter.documentCondition.document))]

end ListParams

end RecordStore
