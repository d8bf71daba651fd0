import RecordStore.Filter.Basic

/-!
# The filter shorthand

A set of filters written as one JSON object: the name of a member is a field name followed by a
suffix for the relation, and its value is the operand.

| Suffix | Relation | Operand |
|---|---|---|
| none | equality | text, number or Boolean |
| `>`, `<`, `>=`, `<=` | comparison | number |
| `><` | range, ends included | array of two numbers |
| `!=` | inequality | text |
| `~`, `~*` | substring, the second ignoring case | text |
| `^`, `$` | beginning and end | text |
-/

namespace RecordStore

/-- The relation suffixes of the shorthand. -/
inductive Suffix where
  | plain
  | greater
  | less
  | greaterEq
  | lessEq
  | range
  | differs
  | substring
  | substringIgnoringCase
  | beginning
  | ending
  deriving DecidableEq

namespace Suffix

/-- The characters of a suffix. -/
def chars : Suffix → List Char
  | .plain => []
  | .greater => ['>']
  | .less => ['<']
  | .greaterEq => ['>', '=']
  | .lessEq => ['<', '=']
  | .range => ['>', '<']
  | .differs => ['!', '=']
  | .substring => ['~']
  | .substringIgnoringCase => ['~', '*']
  | .beginning => ['^']
  | .ending => ['$']

/-- All suffixes. -/
def all : List Suffix :=
  [.plain, .greater, .less, .greaterEq, .lessEq, .range, .differs, .substring,
    .substringIgnoringCase, .beginning, .ending]

/-- The suffix of these characters. -/
def ofChars? (cs : List Char) : Option Suffix := all.find? (·.chars == cs)

end Suffix

namespace Shorthand

/-- The characters of field names: ASCII letters, digits, underscore and point. -/
def isNameChar (c : Char) : Bool := c.isAlphanum || c == '_' || c == '.'

/-- The field name and the suffix of a member name. -/
def splitKey? (key : String) : Option (String × Suffix) :=
  let name := key.toList.takeWhile isNameChar
  if name.isEmpty then none
  else (Suffix.ofChars? (key.toList.dropWhile isNameChar)).map fun suffix =>
    (String.ofList name, suffix)

/-- A numeric operand. -/
def number (field : String) : Json → Except StoreError Binary64
  | .number n => .ok (FieldValue.binary64Of n)
  | operand => .error ((FilterFault.notNumber operand).on field)

/-- A text operand. -/
def text (field : String) : Json → Except StoreError String
  | .text s => .ok s
  | operand => .error ((FilterFault.notText operand).on field)

/-- The condition of a suffix with its operand. -/
def condition (field : String) (suffix : Suffix) (operand : Json) : Except StoreError Condition :=
  match suffix with
  | .plain =>
    match operand with
    | .bool b => .ok (.boolean b)
    | .number n => .ok (.numeric (.equals (FieldValue.binary64Of n)))
    | .text s => .ok (.text .equals s false)
    | other => .error ((FilterFault.notComparable other).on field)
  | .greater => do let v ← number field operand; .ok (.numeric (.greaterThan v))
  | .less => do let v ← number field operand; .ok (.numeric (.lessThan v))
  | .greaterEq => do let v ← number field operand; .ok (.numeric (.greaterOrEqual v))
  | .lessEq => do let v ← number field operand; .ok (.numeric (.lessOrEqual v))
  | .range =>
    match operand with
    | .array [low, high] => do
      let low ← number field low
      let high ← number field high
      .ok (.numeric (.between low high))
    | _ => .error (FilterFault.notRange.on field)
  | .differs => do let s ← text field operand; .ok (.text .notEquals s false)
  | .substring => do let s ← text field operand; .ok (.text .contains s false)
  | .substringIgnoringCase => do let s ← text field operand; .ok (.text .contains s true)
  | .beginning => do let s ← text field operand; .ok (.text .startsWith s false)
  | .ending => do let s ← text field operand; .ok (.text .endsWith s false)

/-- The filter of one member. -/
def entry (key : String) (operand : Json) : Except StoreError Filter :=
  match splitKey? key with
  | none => .error (FilterFault.unrecognizedKey.on key)
  | some (field, suffix) => do
    let condition ← condition field suffix operand
    let filter : Filter := ⟨field, condition⟩
    filter.validate
    .ok filter

/-- The filters of the members, in their order. -/
def entries : List (String × Json) → Except StoreError FilterSet
  | [] => .ok []
  | (key, operand) :: rest => do
    let filter ← entry key operand
    let filters ← entries rest
    .ok (filter :: filters)

/-- The filters of a shorthand object. -/
def parse : Json → Except StoreError FilterSet
  | .object members => entries members
  | _ => .error (FilterFault.notObject.on "filter")

end Shorthand

end RecordStore
