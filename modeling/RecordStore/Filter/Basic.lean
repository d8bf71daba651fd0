import RecordStore.Error
import RecordStore.Record
import RecordStore.Text.Lowercase

/-!
# Filters

A filter is a typed condition on one field. It matches a record whose field is there, is of the
condition's kind and satisfies the condition; a set of filters matches if all of them do.

* `Filter.validate` — the fault of a filter whose operands make no sense;
* `Filter.matchesValue`, `Filter.matches` — evaluation on a value and on a record;
* `FilterSet.matches`, `FilterSet.apply` — evaluation of sets.
-/

namespace RecordStore

/-- The relations between two texts. -/
inductive TextOperator where
  | equals
  | notEquals
  | contains
  | startsWith
  | endsWith
  deriving DecidableEq

/-- The relations of a number to one or two operands; the range includes both its ends. -/
inductive NumericOperator where
  | equals (operand : Binary64)
  | greaterThan (operand : Binary64)
  | lessThan (operand : Binary64)
  | greaterOrEqual (operand : Binary64)
  | lessOrEqual (operand : Binary64)
  | between (low high : Binary64)
  deriving DecidableEq

/-- The kinds of filters. -/
inductive FilterKind where
  | text
  | numeric
  | boolean
  deriving DecidableEq

/-- A condition on a field value. -/
inductive Condition where
  | text (operator : TextOperator) (operand : String) (ignoreCase : Bool)
  | numeric (operator : NumericOperator)
  | boolean (operand : Bool)
  deriving DecidableEq

/-- A condition on a field. -/
structure Filter where
  field : String
  condition : Condition
  deriving DecidableEq

/-- A list of filters, all of which have to match. -/
abbrev FilterSet := List Filter

namespace NumericOperator

/-- The operands of an operator. -/
def operands : NumericOperator → List Binary64
  | .equals v => [v]
  | .greaterThan v => [v]
  | .lessThan v => [v]
  | .greaterOrEqual v => [v]
  | .lessOrEqual v => [v]
  | .between low high => [low, high]

/-- The fault of an operator: bounds in the wrong order, or an operand that is not finite. -/
def fault? (operator : NumericOperator) : Option FilterFault :=
  let infinite := if operator.operands.all Binary64.isFinite then none else some .notFinite
  match operator with
  | .between low high => if high.less low then some (.reversedBounds low high) else infinite
  | _ => infinite

/-- Whether a number stands in the relation; a NaN stands in none. -/
def holds (operator : NumericOperator) (x : Binary64) : Bool :=
  match operator with
  | .equals v => x.equals v
  | .greaterThan v => v.less x
  | .lessThan v => x.less v
  | .greaterOrEqual v => v.lessOrEqual x
  | .lessOrEqual v => x.lessOrEqual v
  | .between low high => low.lessOrEqual x && x.lessOrEqual high

end NumericOperator

namespace TextOperator

/-- Whether two texts stand in the relation. -/
def holds (operator : TextOperator) (actual operand : String) : Bool :=
  match operator with
  | .equals => actual == operand
  | .notEquals => actual != operand
  | .contains => Text.occursIn operand.toList actual.toList
  | .startsWith => operand.toList.isPrefixOf actual.toList
  | .endsWith => operand.toList.isSuffixOf actual.toList

end TextOperator

namespace Condition

/-- The kind of a condition. -/
def kind : Condition → FilterKind
  | .text .. => .text
  | .numeric _ => .numeric
  | .boolean _ => .boolean

/-- Whether a value is of the condition's kind and satisfies it. -/
def holds : Condition → FieldValue → Bool
  | .text operator operand ignoreCase, value =>
    match value.asText? with
    | none => false
    | some actual =>
      if ignoreCase then operator.holds (Text.lowercase actual) (Text.lowercase operand)
      else operator.holds actual operand
  | .numeric operator, value =>
    match value.asBinary64? with
    | none => false
    | some x => operator.holds x
  | .boolean operand, value => value.asBoolean? == some operand

end Condition

namespace Filter

/-- The kind of a filter. -/
def kind (filter : Filter) : FilterKind := filter.condition.kind

/-- A filter is valid if its field has a name and its operands make sense. -/
def validate (filter : Filter) : Except StoreError Unit :=
  if Text.isBlankText filter.field then .error (FilterFault.emptyField.on filter.field)
  else match filter.condition with
    | .numeric operator =>
      match operator.fault? with
      | some fault => .error (fault.on filter.field)
      | none => .ok ()
    | _ => .ok ()

/-- Whether a filter matches a field value. -/
def matchesValue (filter : Filter) (value : FieldValue) : Bool := filter.condition.holds value

/-- Whether a filter matches a record; it does not if the field is missing. -/
def «matches» (filter : Filter) (record : Record) : Bool :=
  match record.fieldValue? filter.field with
  | none => false
  | some value => filter.matchesValue value

end Filter

namespace FilterSet

/-- The filters of both sets. -/
def union (a b : FilterSet) : FilterSet := a ++ b

/-- Whether every filter matches. -/
def «matches» (filters : FilterSet) (record : Record) : Bool := filters.all (·.matches record)

/-- Whether every filter is valid; the error is that of the first invalid one. -/
def validate : FilterSet → Except StoreError Unit
  | [] => .ok ()
  | filter :: rest =>
    match filter.validate with
    | .error e => .error e
    | .ok () => validate rest

/-- The records that match, in their order. -/
def apply (filters : FilterSet) (records : List Record) : List Record :=
  records.filter (FilterSet.matches filters)

end FilterSet

end RecordStore
