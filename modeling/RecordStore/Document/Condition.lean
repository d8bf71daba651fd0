import RecordStore.Document.Basic

/-!
# Conditions on documents

The fragment of the query language of a document database in which documents are selected, with its
written form and its meaning. A condition is a list of tests on the value at a path, all of which
have to hold.

* `DocumentCondition.document` — the written form, itself a document;
* `DocumentCondition.holds` — the evaluation on a document.
-/

namespace RecordStore

/-- The types of values that a condition can ask for. -/
inductive DocumentType where
  | string
  | number
  | boolean
  deriving DecidableEq

/-- A pattern for texts: a literal text, tied to the beginning or the end or to neither. -/
structure TextPattern where
  literal : String
  atStart : Bool
  atEnd : Bool
  ignoreCase : Bool
  deriving DecidableEq

/-- The order relations between numbers. -/
inductive NumberRelation where
  | above
  | below
  | atLeast
  | atMost
  deriving DecidableEq

/-- A test on the value at a path. -/
inductive DocumentTest where
  | typeIs (type : DocumentType)
  | equals (operand : Bson)
  | differs (operand : Bson)
  | number (relation : NumberRelation) (operand : Binary64)
  | fits (pattern : TextPattern)
  | fitsNot (pattern : TextPattern)

/-- A condition on the value at a path. -/
structure DocumentCondition where
  path : String
  tests : List DocumentTest

/-! ## Written form -/

/-- The name of a type. -/
def DocumentType.name : DocumentType → String
  | .string => "string"
  | .number => "number"
  | .boolean => "bool"

/-- The characters that have a meaning of their own in a pattern. -/
def patternMarks : List Char :=
  ['\\', '.', '+', '*', '?', '(', ')', '|', '[', ']', '\x7b', '\x7d', '^', '$', '#', '&', '-', '~']

/-- A literal character in a pattern. -/
def escapePatternChar (c : Char) : List Char := if patternMarks.contains c then ['\\', c] else [c]

namespace TextPattern

/-- The written pattern. -/
def text (pattern : TextPattern) : String :=
  String.ofList ((if pattern.atStart then ['\\', 'A'] else []) ++
    pattern.literal.toList.flatMap escapePatternChar ++
    (if pattern.atEnd then ['\\', 'z'] else []))

/-- The members that ask for a pattern. -/
def members (pattern : TextPattern) : BsonDocument :=
  ("$regex", .text pattern.text) :: if pattern.ignoreCase then [("$options", .text "i")] else []

end TextPattern

/-- The name of an order relation. -/
def NumberRelation.name : NumberRelation → String
  | .above => "$gt"
  | .below => "$lt"
  | .atLeast => "$gte"
  | .atMost => "$lte"

/-- The members of a test. -/
def DocumentTest.members : DocumentTest → BsonDocument
  | .typeIs type => [("$type", .text type.name)]
  | .equals operand => [("$eq", operand)]
  | .differs operand => [("$ne", operand)]
  | .number relation operand => [(relation.name, .double operand)]
  | .fits pattern => pattern.members
  | .fitsNot pattern => [("$not", .document pattern.members)]

/-- The written form of a condition. -/
def DocumentCondition.document (condition : DocumentCondition) : BsonDocument :=
  [(condition.path, .document (condition.tests.flatMap DocumentTest.members))]

/-! ## Meaning -/

/-- Whether a value is of a type. -/
def DocumentType.admits : DocumentType → Bson → Bool
  | .string, .text _ => true
  | .number, value => value.isNumber
  | .boolean, .boolean _ => true
  | _, _ => false

/-- Equality of two scalars; numbers of different kinds can be equal. -/
def Bson.sameScalar : Bson → Bson → Bool
  | .null, .null => true
  | .boolean a, .boolean b => a == b
  | .text a, .text b => a == b
  | a, b => a.compareNumber? b == some .eq

/-- Whether a text fits a pattern; `fold` maps characters that differ in case only to one. -/
def TextPattern.admits (fold : Char → Char) (pattern : TextPattern) (s : String) : Bool :=
  let mapped (t : String) : List Char := if pattern.ignoreCase then t.toList.map fold else t.toList
  let literal := mapped pattern.literal
  match pattern.atStart, pattern.atEnd with
  | true, true => mapped s == literal
  | true, false => literal.isPrefixOf (mapped s)
  | false, true => literal.isSuffixOf (mapped s)
  | false, false => Text.occursIn literal (mapped s)

/-- Whether an order relation holds between a value and a number. -/
def NumberRelation.holds (relation : NumberRelation) (value : Bson) (operand : Binary64) : Bool :=
  match relation, value.compareNumber? (.double operand) with
  | .above, some .gt => true
  | .below, some .lt => true
  | .atLeast, some .gt => true
  | .atLeast, some .eq => true
  | .atMost, some .lt => true
  | .atMost, some .eq => true
  | _, _ => false

namespace DocumentTest

/-- Whether a value, or else an item of it if it is an array, has a property. -/
def someValue (has : Bson → Bool) : Option Bson → Bool
  | none => false
  | some (.array items) => has (.array items) || items.any has
  | some value => has value

/-- Whether a value is a text that fits a pattern. -/
def fitsValue (fold : Char → Char) (pattern : TextPattern) : Bson → Bool
  | .text s => pattern.admits fold s
  | _ => false

/-- Whether a test holds of the value at a path, which may be missing. A negated test holds where
the test itself does not. -/
def holds (fold : Char → Char) (test : DocumentTest) (value : Option Bson) : Bool :=
  match test with
  | .typeIs type => someValue type.admits value
  | .equals operand => someValue (·.sameScalar operand) value
  | .differs operand => !someValue (·.sameScalar operand) value
  | .number relation operand => someValue (relation.holds · operand) value
  | .fits pattern => someValue (fitsValue fold pattern) value
  | .fitsNot pattern => !someValue (fitsValue fold pattern) value

end DocumentTest

/-- The value that the names of a path lead to through nested documents. -/
def Bson.atPath? : List String → Bson → Option Bson
  | [], value => some value
  | name :: rest, .document members =>
    match Members.get? name members with
    | some value => atPath? rest value
    | none => none
  | _ :: _, _ => none

/-- The names of a path, which are parted by points. -/
def pathNames (path : String) : List String := (path.toList.splitOn '.').map String.ofList

/-- Whether a condition holds of a document. -/
def DocumentCondition.holds (fold : Char → Char) (condition : DocumentCondition)
    (document : BsonDocument) : Bool :=
  condition.tests.all fun test =>
    test.holds fold ((Bson.document document).atPath? (pathNames condition.path))

end RecordStore
