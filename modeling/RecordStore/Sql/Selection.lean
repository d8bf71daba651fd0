import RecordStore.List.Params
import RecordStore.Sql.Predicate

/-!
# Selecting rows by list parameters

Filters as predicates on rows. Every predicate begins with a test of the type, so a row whose field
is missing or of another kind is not selected and no cast fails. Numeric and Boolean filters and
filters on the exact text select just the records that they match. A filter that ignores case
selects every record whose field holds a text, because the case mapping of a database depends on its
collation; the list pipeline then does the rest.

* `Filter.rowPredicate` — the predicate of a filter;
* `ListParams.scope` — the predicate of a tenant, a table and all filters;
* `ListParams.statement` — the statement that selects the rows.
-/

namespace RecordStore

/-- Where the value of a field is in a row. -/
def JsonColumn.ofField (field : String) : JsonColumn :=
  if field = "id" then .identifier else .member field

/-- The predicate that two texts stand in a relation. -/
def TextOperator.rowPredicate (operator : TextOperator) (text : TextExpr) (operand : String) :
    SqlPredicate :=
  match operator with
  | .equals => .textEqual text (.operand operand)
  | .notEquals => .textUnequal text (.operand operand)
  | .contains => .textOccurs text (.operand operand)
  | .startsWith => .textEqual (.left text (.operand operand)) (.operand operand)
  | .endsWith => .textEqual (.right text (.operand operand)) (.operand operand)

/-- The predicate that a number stands in a relation. -/
def NumericOperator.rowPredicate (operator : NumericOperator) (column : JsonColumn) :
    SqlPredicate :=
  match operator with
  | .equals v => .number column .equal v
  | .greaterThan v => .number column .greater v
  | .lessThan v => .number column .less v
  | .greaterOrEqual v => .number column .greaterOrEqual v
  | .lessOrEqual v => .number column .lessOrEqual v
  | .between low high => .numberBetween column low high

/-- The predicate of a filter. -/
def Filter.rowPredicate (filter : Filter) : SqlPredicate :=
  let column := JsonColumn.ofField filter.field
  match filter.condition with
  | .text operator operand ignoreCase =>
    let isText := SqlPredicate.typeIs column .string
    if ignoreCase then .parenthesized isText
    else .parenthesized (.and isText (operator.rowPredicate (.unquoted column) operand))
  | .numeric operator => .guarded (.typeIs column .number) (operator.rowPredicate column)
  | .boolean operand => .guarded (.typeIs column .boolean) (.booleanIs column operand)

namespace ListParams

/-- The predicate of the rows of a tenant and a table that the filters select. -/
def scope (params : ListParams) (tenant : Tenant) (table : String) : SqlPredicate :=
  params.filters.foldl (fun predicate filter => .and predicate filter.rowPredicate)
    (.and (.tenantIs tenant.name) (.tableIs table))

/-- The statement that selects these rows, after the clause that says which columns. -/
def statement (params : ListParams) (columns : String) (tenant : Tenant) (table : String) :
    SqlText :=
  .code columns :: .code " FROM records WHERE " :: (params.scope tenant table).sql

end ListParams

end RecordStore
