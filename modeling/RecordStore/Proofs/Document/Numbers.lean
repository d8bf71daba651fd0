import RecordStore.Document.Selection
import RecordStore.Proofs.Binary64.Nearest
import RecordStore.Proofs.Document.Fields
import RecordStore.Proofs.Filter

/-!
# Numbers and Booleans in documents

A database compares numbers by their exact values, and a filter after rounding. The two agree as
long as rounding does not make an integer equal to an operand that it is not equal to. An array is
tested item by item, decimal numbers and infinities are numbers to a database only: where a field
holds one of these a condition can select a document that the filter does not match.

* `Bson.compareNumber?_double`, `Bson.compareNumber?_integer` — exact and rounded comparisons;
* `NumericOperator.all_documentTests` — the tests of an operator;
* `Condition.SeesAsRead` — values that a database and a filter see alike;
* `Filter.holds_document_iff_matches` — the condition of a filter on a document and the filter on
  what is read back.
-/

namespace RecordStore

/-! ### Exact values -/

namespace ExactNumber

theorem unitsOfLeast_pos : 0 < unitsOfLeast := by decide +kernel

theorem unitsOfOne_eq : unitsOfOne = Binary64.perOne * unitsOfLeast := by decide +kernel

theorem ofInt_eq (i : Int) : ofInt i = .finite (i * Binary64.perOne * unitsOfLeast) := by
  rw [ofInt, unitsOfOne_eq, Int.natCast_mul, Int.mul_assoc]

theorem signed_false (magnitude : Nat) : signed false magnitude = .finite magnitude := rfl

theorem signed_true (magnitude : Nat) : signed true magnitude = .finite (-magnitude) := rfl

/-- The exact value of a finite number is given by its signed rank. -/
theorem ofBinary64?_eq {x : Binary64} {k : Int} (finite : x.isFinite = true)
    (rank : x.signedRank? = some k) :
    ofBinary64? x = some (.finite (Binary64.units k * unitsOfLeast)) := by
  cases x with
  | nan negative => cases finite
  | real negative r =>
    have bounded : r.val ≠ infinityRank := by simpa [Binary64.isFinite] using finite
    rw [ofBinary64?, if_neg bounded]
    cases negative with
    | false =>
      obtain rfl : (r.val : Int) = k := Option.some.inj rank
      rw [signed_false, Binary64.units_natCast, Int.natCast_mul]
    | true =>
      obtain rfl : -(r.val : Int) = k := Option.some.inj rank
      rw [signed_true, Binary64.units_neg, Binary64.units_natCast, Int.natCast_mul, Int.neg_mul]

/-- What is measured in the same units is compared without them. -/
theorem compare_finite (a b : Int) :
    compare (.finite (a * unitsOfLeast)) (.finite (b * unitsOfLeast)) = Ord.compare a b := by
  have positive : (0 : Int) < unitsOfLeast := by exact_mod_cast unitsOfLeast_pos
  have less (a b : Int) : a * unitsOfLeast < b * unitsOfLeast ↔ a < b :=
    Int.mul_lt_mul_right positive
  rw [compare, Int.compare_eq_ite_lt, Int.compare_eq_ite_lt]
  simp only [less]

end ExactNumber

namespace Bson

variable {v : Binary64}

/-- A finite number that is stored compares with an operand in the order of the filters. -/
theorem compareNumber?_double {x : Binary64} (hx : x.isFinite = true) (hv : v.isFinite = true) :
    (double x).compareNumber? (.double v) = x.compare? v := by
  obtain ⟨j, rankX⟩ := Binary64.exists_signedRank_of_isFinite hx
  obtain ⟨k, rankV⟩ := Binary64.exists_signedRank_of_isFinite hv
  have exactX : (double x).exactValue? = _ := ExactNumber.ofBinary64?_eq hx rankX
  have exactV : (double v).exactValue? = _ := ExactNumber.ofBinary64?_eq hv rankV
  rw [compareNumber?, exactX, exactV, Binary64.compare?, rankX, rankV]
  simp only [ExactNumber.compare_finite, Binary64.compare_units_units]

/-- A stored integer compares with an operand as its rounded value does, or is rounded to it. -/
theorem compareNumber?_integer {value : Bson} {i : Int} (small : i.natAbs < 2 ^ 64)
    (stored : value.exactValue? = some (.ofInt i)) (hv : v.isFinite = true)
    (exact : (Binary64.ofInt i).equals v = true → value.compareNumber? (.double v) = some .eq) :
    value.compareNumber? (.double v) = (Binary64.ofInt i).compare? v := by
  obtain ⟨k, rankV⟩ := Binary64.exists_signedRank_of_isFinite hv
  have exactV : (double v).exactValue? = _ := ExactNumber.ofBinary64?_eq hv rankV
  have rounded : (Binary64.ofInt i).compare? v = some (Ord.compare (Binary64.intRank i) k) := by
    rw [Binary64.compare?, Binary64.signedRank?_ofInt, rankV]
  by_cases same : (Binary64.ofInt i).equals v = true
  · rw [exact same]
    exact (beq_iff_eq.1 same).symm
  · have apart : Binary64.intRank i ≠ k := by
      intro h
      rw [Binary64.equals, rounded, beq_iff_eq, Option.some.injEq] at same
      exact same (Std.LawfulEqCmp.compare_eq_iff_eq.2 h)
    rw [compareNumber?, stored, exactV, rounded, ExactNumber.ofInt_eq]
    simp only [ExactNumber.compare_finite, Binary64.compare_units small apart]

/-- An integer of at most 53 bits is its rounded value. -/
theorem compareNumber?_of_small {value : Bson} {i : Int} (small : i.natAbs ≤ 2 ^ 53)
    (stored : value.exactValue? = some (.ofInt i)) (hv : v.isFinite = true)
    (same : (Binary64.ofInt i).equals v = true) : value.compareNumber? (.double v) = some .eq := by
  obtain ⟨k, rankV⟩ := Binary64.exists_signedRank_of_isFinite hv
  have exactV : (double v).exactValue? = _ := ExactNumber.ofBinary64?_eq hv rankV
  rw [Binary64.equals, Binary64.compare?, Binary64.signedRank?_ofInt, rankV, beq_iff_eq] at same
  rw [compareNumber?, stored, exactV, ExactNumber.ofInt_eq, ← Binary64.units_intRank small]
  simp only [ExactNumber.compare_finite, Binary64.compare_units_units]
  exact same

end Bson

/-! ### Tests on numbers -/

namespace Bson

/-- A number is tested itself, not item by item. -/
theorem someValue_number {value : Bson} (number : value.isNumber = true) (has : Bson → Bool) :
    DocumentTest.someValue has (some value) = has value := by
  cases value <;> first | rfl | cases number

theorem sameScalar_number {value : Bson} (number : value.isNumber = true) (operand : Bson) :
    value.sameScalar operand = (value.compareNumber? operand == some .eq) := by
  cases value <;> first | rfl | cases number

end Bson

theorem Binary64.compare?_swap (x y : Binary64) :
    y.compare? x = (x.compare? y).map Ordering.swap := by
  unfold compare?
  cases x.signedRank? with
  | none => cases y.signedRank? <;> rfl
  | some a =>
    cases y.signedRank? with
    | none => rfl
    | some b => exact congrArg some Std.OrientedCmp.eq_swap

/-- The order relations in the order of the filters, in which a NaN stands in no relation. -/
def NumberRelation.inOrder (relation : NumberRelation) (x v : Binary64) : Bool :=
  match relation with
  | .above => v.less x
  | .below => x.less v
  | .atLeast => v.lessOrEqual x
  | .atMost => x.lessOrEqual v

theorem NumberRelation.holds_eq_inOrder {relation : NumberRelation} {value : Bson} {x v : Binary64}
    (agree : value.compareNumber? (.double v) = x.compare? v) :
    relation.holds value v = relation.inOrder x v := by
  unfold holds inOrder Binary64.lessOrEqual Binary64.less Binary64.equals
  rw [agree, Binary64.compare?_swap x v]
  rcases x.compare? v with _ | _ | _ | _ <;> cases relation <;> rfl

/-- On a number that compares with the operands as `x` does, the tests hold if the operator does of
`x`. -/
theorem NumericOperator.all_documentTests {operator : NumericOperator} {fold : Char → Char}
    {value : Bson} {x : Binary64} (number : value.isNumber = true)
    (agree : ∀ v ∈ operator.operands, value.compareNumber? (.double v) = x.compare? v) :
    operator.documentTests.all (·.holds fold (some value)) = operator.holds x := by
  have related (relation : NumberRelation) {v : Binary64} (mem : v ∈ operator.operands) :
      (DocumentTest.number relation v).holds fold (some value) = relation.inOrder x v := by
    rw [DocumentTest.holds, Bson.someValue_number number]
    exact NumberRelation.holds_eq_inOrder (agree v mem)
  cases operator with
  | equals v =>
    rw [documentTests, List.all_cons, List.all_nil, Bool.and_true, DocumentTest.holds,
      Bson.someValue_number number, Bson.sameScalar_number number, agree v List.mem_cons_self]
    rfl
  | between low high =>
    rw [documentTests, List.all_cons, List.all_cons, List.all_nil, Bool.and_true,
      related .atLeast (by simp [operands]), related .atMost (by simp [operands])]
    rfl
  | _ v =>
    rw [documentTests, List.all_cons, List.all_nil, Bool.and_true, related _ List.mem_cons_self]
    rfl

/-! ### Values as they are read -/

namespace Bson

/-- The number that a filter finds in the relaxed form of a value. -/
def readNumber? : Bson → Option Binary64
  | .int32 i => some (.ofInt i.toInt)
  | .int64 i => some (.ofInt i.toInt)
  | .double x => if x.isFinite then some x else none
  | _ => none

theorem asBinary64?_relaxed (value : Bson) :
    (FieldValue.ofJson value.relaxed).asBinary64? = value.readNumber? := by
  cases value with
  | int32 i =>
    have bounded : -2 ^ 63 ≤ i.toInt ∧ i.toInt < 2 ^ 64 := by
      have := i.le_toInt
      have := i.toInt_lt
      omega
    have form : (int32 i).relaxed = .number (.integer i.toInt bounded) := by
      rw [relaxed, Json.ofInt, JsonNumber.ofInt?, dif_pos bounded]
    rw [form, FieldValue.asBinary64?_ofJson_number]
    rfl
  | int64 i =>
    have form : ∃ bounded, (int64 i).relaxed = .number (.integer i.toInt bounded) := ⟨_, rfl⟩
    obtain ⟨bounded, form⟩ := form
    rw [form, FieldValue.asBinary64?_ofJson_number]
    rfl
  | double x =>
    cases x with
    | nan negative => rfl
    | real negative rank =>
      rw [relaxed, relaxedDouble, readNumber?, Binary64.isFinite]
      split
      · rw [FieldValue.asBinary64?_ofJson_number]
        rfl
      · rfl
  | date millis =>
    rw [relaxed, relaxedDate]
    split <;> rfl
  | _ => rfl

end Bson

/-- A NaN stands in no relation. -/
theorem NumericOperator.holds_nan (operator : NumericOperator) (negative : Bool) :
    operator.holds (.nan negative) = false := by
  have right (v : Binary64) : v.compare? (.nan negative) = none := by
    unfold Binary64.compare?
    cases v.signedRank? <;> rfl
  have left (v : Binary64) : (Binary64.nan negative).compare? v = none := rfl
  cases operator <;>
    simp [holds, Binary64.equals, Binary64.less, Binary64.lessOrEqual, right, left]

namespace Condition

/-- Whether a database sees a value as it is read by a filter: in an array there are no items of the
condition's type, a number is neither decimal nor infinite, and an integer that is rounded to an
operand is equal to it. -/
def SeesAsRead : Condition → Bson → Prop
  | .boolean operand, .array items => ∀ item ∈ items, item ≠ .boolean operand
  | .numeric _, .array items => ∀ item ∈ items, item.isNumber = false
  | .numeric _, .decimal _ => False
  | .numeric _, .double x => ∀ negative, x ≠ .ofRank negative infinityRank
  | .numeric operator, .int64 i => ∀ v ∈ operator.operands,
      (Binary64.ofInt i.toInt).equals v = true →
        (Bson.int64 i).compareNumber? (.double v) = some .eq
  | _, _ => True

variable {fold : Char → Char} {value : Bson}

/-- The tests of a numeric condition on a value that is seen as it is read. -/
theorem all_numeric_iff {operator : NumericOperator}
    (finite : ∀ v ∈ operator.operands, v.isFinite = true)
    (seen : (numeric operator).SeesAsRead value) :
    (DocumentTest.typeIs .number :: operator.documentTests).all (·.holds fold (some value)) = true ↔
      (numeric operator).holds (.ofJson value.relaxed) = true := by
  rw [holds_numeric_iff, Bson.asBinary64?_relaxed, List.all_cons, DocumentTest.holds]
  -- a number that is read as `x`
  have read {x : Binary64} (number : value.isNumber = true) (hx : value.readNumber? = some x)
      (agree : ∀ v ∈ operator.operands, value.compareNumber? (.double v) = x.compare? v) :
      (DocumentTest.someValue DocumentType.number.admits (some value) &&
          operator.documentTests.all (·.holds fold (some value))) = true ↔
        ∃ x, value.readNumber? = some x ∧ operator.holds x = true := by
    rw [Bson.someValue_number number, DocumentType.admits, number, Bool.true_and,
      NumericOperator.all_documentTests number agree, hx]
    simp
  -- a value that is no number on either side
  have unread (other : DocumentTest.someValue DocumentType.number.admits (some value) = false)
      (none : value.readNumber? = none) :
      (DocumentTest.someValue DocumentType.number.admits (some value) &&
          operator.documentTests.all (·.holds fold (some value))) = true ↔
        ∃ x, value.readNumber? = some x ∧ operator.holds x = true := by
    rw [other, Bool.false_and, none]
    simp
  cases value with
  | int32 i =>
    have small : i.toInt.natAbs ≤ 2 ^ 53 := by
      have := i.le_toInt
      have := i.toInt_lt
      omega
    refine read rfl rfl fun v mem => Bson.compareNumber?_integer (by omega) rfl (finite v mem) ?_
    exact Bson.compareNumber?_of_small small rfl (finite v mem)
  | int64 i =>
    have small : i.toInt.natAbs < 2 ^ 64 := by
      have := i.le_toInt
      have := i.toInt_lt
      omega
    exact read rfl rfl fun v mem =>
      Bson.compareNumber?_integer small rfl (finite v mem) (seen v mem)
  | double x =>
    cases x with
    | nan negative =>
      have nothing : ∀ v ∈ operator.operands,
          (Bson.double (.nan negative)).compareNumber? (.double v) =
            (Binary64.nan negative).compare? v := fun _ _ => rfl
      rw [NumericOperator.all_documentTests rfl nothing, NumericOperator.holds_nan, Bool.and_false]
      simp [Bson.readNumber?, Binary64.isFinite]
    | real negative rank =>
      have bounded : (Binary64.real negative rank).isFinite = true := by
        rw [Binary64.isFinite, bne_iff_ne]
        intro infinite
        exact seen negative (congrArg (Binary64.real negative) (Fin.ext infinite))
      exact read rfl (if_pos bounded) fun v mem => Bson.compareNumber?_double bounded (finite v mem)
  | decimal d => exact seen.elim
  | array items =>
    refine unread ?_ rfl
    have none : items.any DocumentType.number.admits = false := by
      rw [List.any_eq_false]
      intro item mem
      simpa [DocumentType.admits] using seen item mem
    rw [DocumentTest.someValue, none]
    rfl
  | _ => exact unread rfl rfl

theorem sameScalar_boolean_iff {item : Bson} {operand : Bool} :
    item.sameScalar (.boolean operand) = true ↔ item = .boolean operand := by
  cases item with
  | boolean b => rw [Bson.sameScalar, beq_iff_eq, Bson.boolean.injEq]
  | _ => simp [Bson.sameScalar, Bson.compareNumber?, Bson.exactValue?]

/-- The tests of a Boolean condition on a value that is seen as it is read. -/
theorem all_boolean_iff {operand : Bool} (seen : (boolean operand).SeesAsRead value) :
    [DocumentTest.typeIs .boolean, .equals (.boolean operand)].all (·.holds fold (some value)) =
        true ↔
      (boolean operand).holds (.ofJson value.relaxed) = true := by
  rw [holds_boolean_ofJson_iff, Bson.relaxed_eq_bool_iff, List.all_cons, List.all_cons,
    List.all_nil, Bool.and_true, DocumentTest.holds, DocumentTest.holds]
  cases value with
  | boolean b =>
    have same : DocumentTest.someValue (Bson.sameScalar · (.boolean operand))
        (some (.boolean b)) = (b == operand) := rfl
    have typed : DocumentTest.someValue DocumentType.boolean.admits (some (.boolean b)) = true :=
      rfl
    rw [typed, same, Bool.true_and, beq_iff_eq, Bson.boolean.injEq]
  | array items =>
    have none : items.any (Bson.sameScalar · (.boolean operand)) = false := by
      rw [List.any_eq_false]
      intro item mem same
      exact seen item mem (sameScalar_boolean_iff.1 same)
    have unequal : DocumentTest.someValue (Bson.sameScalar · (.boolean operand))
        (some (.array items)) = false := by
      rw [DocumentTest.someValue, none]
      rfl
    rw [unequal, Bool.and_false]
    simp
  | _ => simp [DocumentTest.someValue, DocumentType.admits]

end Condition

/-! ### Filters -/

namespace Filter

variable {filter : Filter} {record : Record} {tenant : Tenant} {document : BsonDocument}

/-- A condition holds of a document if its tests hold of the field. -/
theorem holds_documentCondition (fold : Char → Char) :
    filter.documentCondition.holds fold document =
      filter.documentCondition.tests.all (·.holds fold (documentField? document filter.field)) :=
  rfl

/-- Every condition asks for a type first, which a missing value does not have. -/
theorem all_tests_none (fold : Char → Char) :
    filter.documentCondition.tests.all (·.holds fold none) = false := by
  obtain ⟨field, condition⟩ := filter
  cases condition <;> rfl

/-- The tests of a numeric or Boolean filter on a value that is seen as it is read. -/
theorem all_tests_some {fold : Char → Char} {value : Bson} (valid : filter.validate = .ok ())
    (scalar : filter.kind ≠ .text) (seen : filter.condition.SeesAsRead value) :
    filter.documentCondition.tests.all (·.holds fold (some value)) = true ↔
      filter.condition.holds (.ofJson value.relaxed) = true := by
  have finite := @isFinite_of_valid filter
  obtain ⟨field, condition⟩ := filter
  cases condition with
  | text operator operand ignoreCase => exact absurd rfl scalar
  | numeric operator => exact Condition.all_numeric_iff (finite valid rfl) seen
  | boolean operand => exact Condition.all_boolean_iff seen

/-- A condition on numbers or Booleans selects the document of a record exactly if the filter
matches what is read back from the document: for every filter that is valid and on a field without a
point in its name, and every field value that the database sees as it is read. -/
theorem holds_document_iff_matches (fold : Char → Char) (valid : filter.validate = .ok ())
    (scalar : filter.kind ≠ .text) (undotted : '.' ∉ filter.field.toList)
    (written : record.document tenant = .ok document)
    (seen : ∀ value, documentField? document filter.field = some value →
      filter.condition.SeesAsRead value) :
    ∃ back, Record.ofDocument document = .ok back ∧
      (filter.documentCondition.holds fold document = true ↔ filter.matches back = true) := by
  obtain ⟨back, read, fields⟩ := Record.exists_ofDocument written
  refine ⟨back, read, ?_⟩
  rw [matches_iff, fields filter.field undotted, holds_documentCondition]
  cases stored : documentField? document filter.field with
  | none => simp [all_tests_none]
  | some value => simp [all_tests_some valid scalar (seen value stored)]

/-- A record of a ware with its price, an amount that is not rounded and whether there is more. -/
def ware : Record :=
  ⟨"w", .ofList [("price", .integer 5), ("amount", .integer 9007199254740992),
    ("more", .boolean true)]⟩

/-- The filter for prices from two to five. -/
def cheap : Filter := ⟨"price", .numeric (.between (.ofInt 2) (.ofInt 5))⟩

theorem holds_document_ware :
    cheap.validate = .ok () ∧ cheap.kind ≠ .text ∧
      ∃ document back, ware.document ⟨"t"⟩ = .ok document ∧ Record.ofDocument document = .ok back ∧
        cheap.documentCondition.holds id document = true ∧ cheap.matches back = true := by
  have valid : cheap.validate = .ok () := by rfl
  have seen : ∀ value, documentField? [
        ("_id", .text "t:w"), ("tenant_id", .text "t"), ("id", .text "w"),
        ("fields", .document [("more", .boolean true), ("price", .int64 5),
          ("amount", .int64 9007199254740992)])] cheap.field = some value →
      cheap.condition.SeesAsRead value := by
    intro value stored
    obtain rfl : Bson.int64 5 = value := Option.some.inj stored
    intro v mem same
    exact Bson.compareNumber?_of_small (by decide) rfl (isFinite_of_valid valid rfl v mem) same
  obtain ⟨back, read, iff⟩ :=
    @holds_document_iff_matches cheap ware ⟨"t"⟩ _ id valid (by decide) (by decide) rfl seen
  have fits : cheap.matches back = true := by
    cases read
    decide +kernel
  exact ⟨valid, by decide, _, back, rfl, read, iff.2 fits, fits⟩

/-- Whether the condition of a filter and the filter differ on a record that is stored. -/
def DiffersOn (filter : Filter) (record : Record) : Prop :=
  ∃ document back, record.document ⟨"t"⟩ = .ok document ∧ Record.ofDocument document = .ok back ∧
    filter.documentCondition.holds id document ≠ filter.matches back

/-- A filter for the number five in a field. -/
def isFive (field : String) : Filter := ⟨field, .numeric (.equals (.ofInt 5))⟩

theorem documentCondition_differs :
    (isFive "f").validate = .ok () ∧
      -- an array with such an item
      (isFive "f").DiffersOn ⟨"r", .ofList [("f", .json (.array [.ofNat 5]))]⟩ ∧
      DiffersOn ⟨"f", .boolean true⟩ ⟨"r", .ofList [("f", .json (.array [.bool true]))]⟩ ∧
      -- numbers that are read back as objects
      (isFive "f").DiffersOn
        ⟨"r", .ofList [("f", .json (.object [("$numberDecimal", .text "5")]))]⟩ ∧
      DiffersOn ⟨"f", .numeric (.greaterThan (.ofInt 5))⟩
        ⟨"r", .ofList [("f", .json (.object [("$numberDouble", .text "Infinity")]))]⟩ ∧
      -- a name that is taken for a path
      (isFive "a.b").DiffersOn ⟨"r", .ofList [("a.b", .integer 5)]⟩ ∧
      -- an integer that only the filter rounds
      DiffersOn ⟨"f", .numeric (.equals (.ofInt (2 ^ 53)))⟩
        ⟨"r", .ofList [("f", .integer 9007199254740993)]⟩ := by
  refine ⟨rfl, ⟨_, _, rfl, rfl, ?_⟩, ⟨_, _, rfl, rfl, ?_⟩, ⟨_, _, rfl, rfl, ?_⟩,
    ⟨_, _, rfl, rfl, ?_⟩, ⟨_, _, rfl, rfl, ?_⟩, ⟨_, _, rfl, rfl, ?_⟩⟩
  all_goals decide +kernel

end Filter

end RecordStore
