import RecordStore.Sql.Basic
import RecordStore.Sql.Row
import RecordStore.Text.Basic

/-!
# SQL predicates

The fragment of SQL in which rows are selected, with its text and its meaning. A predicate is true,
false or unknown on a row, because an expression over a missing member is null and a comparison with
null is unknown; the evaluation of a cast fails on a value of another type.

* `SqlPredicate.sql` — the text with its bound values;
* `SqlPredicate.truth` — the evaluation on a row;
* `SqlPredicate.selects` — a row is selected if the predicate is true on it.
-/

namespace RecordStore

/-- The types of JSON values. -/
inductive JsonType where
  | null
  | boolean
  | number
  | string
  | array
  | object
  deriving DecidableEq

/-- The name of a type. -/
def JsonType.name : JsonType → String
  | .null => "null"
  | .boolean => "boolean"
  | .number => "number"
  | .string => "string"
  | .array => "array"
  | .object => "object"

/-- The type of a value. -/
def Json.type : Json → JsonType
  | .null => .null
  | .bool _ => .boolean
  | .number _ => .number
  | .text _ => .string
  | .array _ => .array
  | .object _ => .object

/-- A JSON value in a row: the identifier, or a member of the data. -/
inductive JsonColumn where
  | identifier
  | member (name : String)
  deriving DecidableEq

/-- An expression of type text. -/
inductive TextExpr where
  | operand (value : String)
  | unquoted (column : JsonColumn)
  | left (text measure : TextExpr)
  | right (text measure : TextExpr)
  deriving DecidableEq

/-- The comparisons of numbers. -/
inductive Comparison where
  | equal
  | greater
  | less
  | greaterOrEqual
  | lessOrEqual
  deriving DecidableEq

/-- A predicate on rows. -/
inductive SqlPredicate where
  | tenantIs (tenant : String)
  | tableIs (table : String)
  | typeIs (column : JsonColumn) (type : JsonType)
  | textEqual (a b : TextExpr)
  | textUnequal (a b : TextExpr)
  | textOccurs (text part : TextExpr)
  | number (column : JsonColumn) (comparison : Comparison) (operand : Binary64)
  | numberBetween (column : JsonColumn) (low high : Binary64)
  | booleanIs (column : JsonColumn) (operand : Bool)
  | and (a b : SqlPredicate)
  | parenthesized (a : SqlPredicate)
  | guarded (guard value : SqlPredicate)
  deriving DecidableEq

/-! ## Texts -/

/-- The text of a JSON value in a row. -/
def JsonColumn.sql : JsonColumn → SqlText
  | .identifier => [.code "to_jsonb(id)"]
  | .member name => [.code "(data -> ", .bind (.text name), .code ")"]

/-- The text of a text expression. -/
def TextExpr.sql : TextExpr → SqlText
  | .operand value => [.bind (.text value)]
  | .unquoted column => .code "(" :: column.sql ++ [.code " #>> '\x7b\x7d')"]
  | .left text measure =>
    .code "left(" :: text.sql ++ .code ", char_length(" :: measure.sql ++ [.code "))"]
  | .right text measure =>
    .code "right(" :: text.sql ++ .code ", char_length(" :: measure.sql ++ [.code "))"]

/-- The sign of a comparison. -/
def Comparison.sign : Comparison → String
  | .equal => " = "
  | .greater => " > "
  | .less => " < "
  | .greaterOrEqual => " >= "
  | .lessOrEqual => " <= "

/-- The text of a predicate. -/
def SqlPredicate.sql : SqlPredicate → SqlText
  | .tenantIs tenant => [.code "tenant_id = ", .bind (.text tenant)]
  | .tableIs table => [.code "table_name = ", .bind (.text table)]
  | .typeIs column type =>
    .code "jsonb_typeof(" :: column.sql ++ [.code (") = '" ++ type.name ++ "'")]
  | .textEqual a b => a.sql ++ .code " = " :: b.sql
  | .textUnequal a b => a.sql ++ .code " <> " :: b.sql
  | .textOccurs text part =>
    .code "strpos(" :: text.sql ++ .code ", " :: part.sql ++ [.code ") > 0"]
  | .number column comparison operand =>
    .code "(" :: column.sql ++
      [.code (")::float8" ++ comparison.sign), .bind (.float operand)]
  | .numberBetween column low high =>
    .code "(" :: column.sql ++
      [.code ")::float8 BETWEEN ", .bind (.float low), .code " AND ", .bind (.float high)]
  | .booleanIs column operand =>
    .code "(" :: column.sql ++ [.code ")::boolean = ", .bind (.boolean operand)]
  | .and a b => a.sql ++ .code " AND " :: b.sql
  | .parenthesized a => .code "(" :: a.sql ++ [.code ")"]
  | .guarded guard value =>
    .code "(CASE WHEN " :: guard.sql ++ .code " THEN " :: value.sql ++ [.code " ELSE false END)"]

/-! ## Meaning -/

/-- A truth value; unknown is `none`. -/
abbrev Truth := Option Bool

/-- A conjunction is false if one side is, and otherwise unknown if one side is. -/
def Truth.and : Truth → Truth → Truth
  | some false, _ => some false
  | _, some false => some false
  | some true, some true => some true
  | _, _ => none

/-- A cast of a JSON value that is not of the wanted type. -/
structure CastFault where
  wanted : JsonType
  actual : JsonType
  deriving DecidableEq

/-- The JSON value in a row; a missing member is null. -/
def JsonColumn.value? (row : StoredRow) : JsonColumn → Option Json
  | .identifier => some (.text row.id)
  | .member name => row.data.get? name

/-- The text of a JSON value without the quotes of a string. -/
def Json.unquoted? : Json → Option String
  | .null => none
  | .text s => some s
  | value => some value.print

/-- The value of a text expression, null if it depends on a null. -/
def TextExpr.value? (row : StoredRow) : TextExpr → Option String
  | .operand value => some value
  | .unquoted column => (column.value? row).bind Json.unquoted?
  | .left text measure =>
    match text.value? row, measure.value? row with
    | some s, some m => some (String.ofList (s.toList.take m.length))
    | _, _ => none
  | .right text measure =>
    match text.value? row, measure.value? row with
    | some s, some m => some (String.ofList (s.toList.drop (s.length - m.length)))
    | _, _ => none

/-- The place of the first occurrence of a part in a text, counted from one, or zero. -/
def textPosition (part : List Char) : List Char → Nat
  | [] => if part.isEmpty then 1 else 0
  | c :: cs =>
    if part.isPrefixOf (c :: cs) then 1
    else
      match textPosition part cs with
      | 0 => 0
      | n => n + 1

/-- The order of numbers in a database, in which a NaN equals itself and is larger than all other
numbers. -/
def Binary64.sqlCompare (x y : Binary64) : Ordering :=
  match x.compare? y with
  | some o => o
  | none => Ord.compare x.signedRank?.isNone y.signedRank?.isNone

/-- Whether a comparison of two numbers holds. -/
def Comparison.holds (comparison : Comparison) (x y : Binary64) : Bool :=
  match comparison, x.sqlCompare y with
  | .equal, .eq => true
  | .greater, .gt => true
  | .less, .lt => true
  | .greaterOrEqual, .gt => true
  | .greaterOrEqual, .eq => true
  | .lessOrEqual, .lt => true
  | .lessOrEqual, .eq => true
  | _, _ => false

/-- The cast to a floating-point number, which rounds to the nearest one. -/
def Json.castNumber : Json → Except CastFault Binary64
  | .number (.integer i _) => .ok (.ofInt i)
  | .number (.float x _) => .ok x
  | value => .error ⟨.number, value.type⟩

/-- The cast to a Boolean. -/
def Json.castBoolean : Json → Except CastFault Bool
  | .bool b => .ok b
  | value => .error ⟨.boolean, value.type⟩

namespace SqlPredicate

/-- A test of two values, unknown if one of them is null. -/
def test {α β : Type} (a : Option α) (b : Option β) (holds : α → β → Bool) : Truth :=
  match a, b with
  | some x, some y => some (holds x y)
  | _, _ => none

/-- A test of a value after a cast. -/
def castTest {α : Type} (cast : Json → Except CastFault α) (holds : α → Bool) :
    Option Json → Except CastFault Truth
  | none => .ok none
  | some value => (cast value).map fun x => some (holds x)

/-- The truth of a predicate on a row. Of a guarded predicate the value is evaluated only where the
guard is true; elsewhere it is false. -/
def truth (row : StoredRow) : SqlPredicate → Except CastFault Truth
  | .tenantIs tenant => .ok (some (row.tenant.name == tenant))
  | .tableIs table => .ok (some (row.table == table))
  | .typeIs column type => .ok ((column.value? row).map fun value => value.type == type)
  | .textEqual a b => .ok (test (a.value? row) (b.value? row) fun s t => s == t)
  | .textUnequal a b => .ok (test (a.value? row) (b.value? row) fun s t => s != t)
  | .textOccurs text part =>
    .ok (test (text.value? row) (part.value? row) fun s t =>
      decide (0 < textPosition t.toList s.toList))
  | .number column comparison operand =>
    castTest Json.castNumber (comparison.holds · operand) (column.value? row)
  | .numberBetween column low high =>
    castTest Json.castNumber
      (fun x => Comparison.greaterOrEqual.holds x low && Comparison.lessOrEqual.holds x high)
      (column.value? row)
  | .booleanIs column operand => castTest Json.castBoolean (· == operand) (column.value? row)
  | .and a b => do
    let x ← truth row a
    let y ← truth row b
    .ok (x.and y)
  | .parenthesized a => truth row a
  | .guarded guard value => do
    match ← truth row guard with
    | some true => truth row value
    | _ => .ok (some false)

/-- Whether a row is selected. -/
def selects (predicate : SqlPredicate) (row : StoredRow) : Bool :=
  match predicate.truth row with
  | .ok (some true) => true
  | _ => false

end SqlPredicate

end RecordStore
