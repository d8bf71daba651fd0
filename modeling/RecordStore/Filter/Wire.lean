import RecordStore.Filter.Basic
import RecordStore.Json.Reader

/-!
# Filters as JSON

The serialized form of a filter is one flat object: the field, the kind of the condition, and what
belongs to that kind. The operand of a numeric condition stands inside its operator.

* `Filter.toJson` — writing;
* `Filter.ofJson?` — reading, which also takes the members in any order, skips unknown ones, and
  reads a kind by its position as well as by its name.
-/

namespace RecordStore

namespace TextOperator

/-- The names of the relations between texts. -/
def wireNames : List (String × TextOperator) := [
  ("equals", .equals), ("not_equals", .notEquals), ("contains", .contains),
  ("prefix", .startsWith), ("suffix", .endsWith)]

/-- The name of a relation. -/
def wireName : TextOperator → String
  | .equals => "equals"
  | .notEquals => "not_equals"
  | .contains => "contains"
  | .startsWith => "prefix"
  | .endsWith => "suffix"

end TextOperator

namespace NumericOperator

/-- The operators that have one operand, with their names. -/
def wireNames : List (String × (Binary64 → NumericOperator)) := [
  ("equals", .equals), ("greater_than", .greaterThan), ("less_than", .lessThan),
  ("greater_or_equal", .greaterOrEqual), ("less_or_equal", .lessOrEqual)]

/-- The name of an operator. -/
def wireName : NumericOperator → String
  | .equals _ => "equals"
  | .greaterThan _ => "greater_than"
  | .lessThan _ => "less_than"
  | .greaterOrEqual _ => "greater_or_equal"
  | .lessOrEqual _ => "less_or_equal"
  | .between .. => "between"

/-- The operand or the operands as JSON. -/
def operandJson : NumericOperator → Json
  | .equals v => .ofBinary64 v
  | .greaterThan v => .ofBinary64 v
  | .lessThan v => .ofBinary64 v
  | .greaterOrEqual v => .ofBinary64 v
  | .lessOrEqual v => .ofBinary64 v
  | .between low high => .object [("low", .ofBinary64 low), ("high", .ofBinary64 high)]

/-- An operator as JSON. -/
def toJson (operator : NumericOperator) : Json :=
  .object [("op", .text operator.wireName), ("value", operator.operandJson)]

/-- The names of all operators, with the readers of their operands. The bounds of a range must be
an object. -/
def readers : List (String × (Json → Option NumericOperator)) :=
  Members.mapValues (fun build operand => (Json.binary64? operand).map build) wireNames ++
    [("between", fun operand =>
      match Json.slotsOfObject? ["low", "high"] operand with
      | some [low, high] => do
        let low ← Json.required Json.binary64? low
        let high ← Json.required Json.binary64? high
        some (.between low high)
      | _ => none)]

/-- The operator of a JSON value. -/
def ofJson? (value : Json) : Option NumericOperator :=
  match Json.slots? ["op", "value"] value with
  | some [operator, operand] => do
    let read ← Json.required (Json.choice? Json.isVoid readers) operator
    Json.required read operand
  | _ => none

end NumericOperator

namespace FilterKind

/-- The kinds in order, with their names. -/
def wireNames : List (String × FilterKind) :=
  [("string", .text), ("numeric", .numeric), ("boolean", .boolean)]

/-- The kind of a name or of a position. -/
def ofJson? : Json → Option FilterKind
  | .text name => Members.get? name wireNames
  | .number (.integer i _) => if 0 ≤ i then (wireNames[i.toNat]?).map Prod.snd else none
  | _ => none

end FilterKind

namespace Condition

/-- The members of a condition. -/
def wireMembers : Condition → List (String × Json)
  | .text operator operand ignoreCase => [
    ("kind", .text "string"), ("operator", .text operator.wireName), ("value", .text operand),
    ("case_insensitive", .bool ignoreCase)]
  | .numeric operator => [("kind", .text "numeric"), ("operator", operator.toJson)]
  | .boolean operand => [
    ("kind", .text "boolean"), ("operator", .text "equals"), ("value", .bool operand)]

/-- The condition of a kind from the object that holds it. -/
def ofKind? (kind : FilterKind) (value : Json) : Option Condition :=
  match kind with
  | .text =>
    match Json.slotsOfObject? ["operator", "value", "case_insensitive"] value with
    | some [operator, operand, ignoreCase] => do
      let operator ← Json.required (Json.choice? Json.isVoid TextOperator.wireNames) operator
      let operand ← Json.required Json.text? operand
      let ignoreCase ← Json.orElse false Json.bool? ignoreCase
      some (.text operator operand ignoreCase)
    | _ => none
  | .numeric =>
    match Json.slotsOfObject? ["operator"] value with
    | some [operator] => (Json.required NumericOperator.ofJson? operator).map .numeric
    | _ => none
  | .boolean =>
    match Json.slotsOfObject? ["operator", "value"] value with
    | some [operator, operand] => do
      let _ ← Json.required (Json.choice? Json.isVoid [("equals", ())]) operator
      let operand ← Json.required Json.bool? operand
      some (.boolean operand)
    | _ => none

end Condition

namespace Filter

/-- The serialized form of a filter. -/
def toJson (filter : Filter) : Json :=
  .object (("field", .text filter.field) :: filter.condition.wireMembers)

/-- The filter of a serialized form, which must be an object. -/
def ofJson? (value : Json) : Option Filter :=
  match Json.slotsOfObject? ["field", "kind"] value with
  | some [field, kind] => do
    let field ← Json.required Json.text? field
    let kind ← Json.required FilterKind.ofJson? kind
    let condition ← Condition.ofKind? kind value
    some ⟨field, condition⟩
  | _ => none

end Filter

namespace FilterSet

/-- The serialized form of a set of filters. -/
def toJson (filters : FilterSet) : Json := .array (filters.map Filter.toJson)

/-- The set of a serialized form. -/
def ofJson? : Json → Option FilterSet := Json.list? Filter.ofJson?

end FilterSet

end RecordStore
