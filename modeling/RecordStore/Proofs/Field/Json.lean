import RecordStore.Field
import RecordStore.Proofs.Binary64.Rounding
import RecordStore.Proofs.Json.Distinct

/-!
# Field values as JSON

The kinds of field values are told apart in JSON but for three: a timestamp is written like a text,
a number that is not finite like nothing, and a JSON value that is a scalar like that scalar. All
other values are read as they were written.

* `FieldValue.toJson_eq_text_iff`, `FieldValue.toJson_eq_bool_iff` — which values are written as a
  given text or truth value;
* `FieldValue.read_serialize_iff` — which values are read as they were written.
-/

namespace RecordStore

namespace FieldValue

/-- Whether a value is a scalar that is kept as JSON. -/
def isWrapped : FieldValue → Bool
  | .json v => v.isScalar
  | _ => false

variable {value : FieldValue}

/-! ### Writing -/

theorem ofBinary64_ne (x : Binary64) :
    (∀ s, Json.ofBinary64 x ≠ .text s) ∧ ∀ b, Json.ofBinary64 x ≠ .bool b := by
  rw [Json.ofBinary64]
  split
  · exact ⟨fun _ => nofun, fun _ => nofun⟩
  · exact ⟨fun _ => nofun, fun _ => nofun⟩

/-- Texts and timestamps are written as texts. -/
theorem toJson_eq_text_iff (unwrapped : value.isWrapped = false) {s : String} :
    value.toJson = .text s ↔ value.asText? = some s := by
  cases value with
  | float x => simp [toJson, asText?, (ofBinary64_ne x).1]
  | json v =>
    have other : v ≠ .text s := by
      rintro rfl
      cases unwrapped
    simp [toJson, asText?, other]
  | _ => simp [toJson, asText?, Json.ofInt64]

/-- Only truth values are written as truth values. -/
theorem toJson_eq_bool_iff (unwrapped : value.isWrapped = false) {b : Bool} :
    value.toJson = .bool b ↔ value.asBoolean? = some b := by
  cases value with
  | float x => simp [toJson, asBoolean?, (ofBinary64_ne x).2]
  | json v =>
    have other : v ≠ .bool b := by
      rintro rfl
      cases unwrapped
    simp [toJson, asBoolean?, other]
  | _ => simp [toJson, asBoolean?, Json.ofInt64]

/-! ### Reading -/

/-- Whether a value is written like no other one. The members of a JSON object have names of their
own, at any depth. -/
def IsFaithful : FieldValue → Prop
  | .instant _ => False
  | .float x => x.isFinite = true
  | .json v => v.isScalar = false ∧ v.distinct = v
  | _ => True

theorem read_ofInt64 (i : Int64) : read (.ofInt64 i) = .integer i := by
  have whole (bounded : -2 ^ 63 ≤ i.toInt ∧ i.toInt < 2 ^ 64) :
      integerOf? (.integer i.toInt bounded) = some i := by
    rw [integerOf?, if_pos i.toInt_lt, Int64.ofInt_toInt]
  simp [read, readers, Json.ofInt64, whole]

/-- A JSON value is read as one just if it is no scalar. -/
theorem read_eq_json_iff {v w : Json} : read v = .json w ↔ v.isScalar = false ∧ v = w := by
  cases v with
  | number n =>
    cases integer : integerOf? n with
    | none => simp [read, readers, integer, Json.isScalar]
    | some i => simp [read, readers, integer, Json.isScalar]
  | _ => simp [read, readers, Json.isScalar]

/-- **Values on the wire.** Just the faithful values are read as they were written. -/
theorem read_serialize_iff : read value.serialize.distinct = value ↔ value.IsFaithful := by
  cases value with
  | integer i => exact iff_of_true (read_ofInt64 i) trivial
  | float x =>
    by_cases finite : x.isFinite = true
    · have written : Json.ofBinary64 x = .number (.float x finite) := dif_pos finite
      have shown : read (Json.ofBinary64 x).distinct = .float x := by rw [written]; rfl
      exact iff_of_true shown finite
    · have written : Json.ofBinary64 x = .null := dif_neg finite
      have shown : read (Json.ofBinary64 x).distinct = .null := by rw [written]; rfl
      exact iff_of_false (fun same => nomatch shown.symm.trans same) finite
  | json v =>
    show read v.distinct = .json v ↔ v.isScalar = false ∧ v.distinct = v
    rw [read_eq_json_iff, Json.isScalar_distinct]
  | instant t => exact iff_of_false nofun id
  | boolean b => exact iff_of_true rfl trivial
  | text s => exact iff_of_true rfl trivial
  | null => exact iff_of_true rfl trivial

/-- The numbers of JSON are finite. -/
theorem isFinite_binary64Of (n : JsonNumber) : (binary64Of n).isFinite = true := by
  cases n with
  | float x finite => exact finite
  | integer i bounded => exact Binary64.isFinite_ofInt (by omega)

/-- What is read is faithful. -/
theorem isFaithful_read (v : Json) : (read v.distinct).IsFaithful := by
  cases v with
  | number n =>
    cases integer : integerOf? n with
    | some i => simp [Json.distinct, read, readers, integer, IsFaithful]
    | none => simp [Json.distinct, read, readers, integer, IsFaithful, isFinite_binary64Of]
  | array items => exact ⟨rfl, (Json.array items).distinct_distinct⟩
  | object members => exact ⟨rfl, (Json.object members).distinct_distinct⟩
  | _ => exact trivial

end FieldValue

end RecordStore
