import RecordStore.Proofs.Document.Update
import RecordStore.Proofs.Field.Json

/-!
# What a backend gives back

A record is stored as a JSON object in a row, or as a document, and read back from there. Both ways
it keeps its identifier and its fields, and a field keeps its value unless JSON has no form of its
own for it: a timestamp comes back as its text, a number that is not finite as nothing, and a scalar
that was kept as JSON as that scalar. Every record has a row. It has a document if no integer in it
is too large for 64 signed bits, and the document is read back in the same way if no name in it is
marked.

* `FieldValue.stored`, `FieldValue.ofJson_toJson` — a value that is written and read;
* `FieldValue.stored_eq_self_iff` — the values that come back as they are;
* `Json.isNarrow`, `Bson.isSome_ofJson?` — the JSON values that are document values;
* `Record.exists_document_iff` — the records that have a document;
* `Record.stored_forms_read` — rows and documents.
-/

namespace RecordStore

/-! ### Values -/

namespace FieldValue

/-- What is read back of a value. A scalar that is kept as JSON gets the kind of the scalar, and a
number is an integer just if it is one of 64 signed bits. -/
def stored : FieldValue → FieldValue
  | .instant t => .text t.text
  | .float x => if x.isFinite then .float x else .null
  | .json .null => .null
  | .json (.bool b) => .boolean b
  | .json (.number (.integer i _)) => if i < 2 ^ 63 then .integer (.ofInt i) else .float (.ofInt i)
  | .json (.number (.float x _)) => .float x
  | .json (.text s) => .text s
  | value => value

theorem ofJson_ofInt64 (i : Int64) : ofJson (.ofInt64 i) = .integer i := by
  simp only [ofJson, Json.ofInt64, integerOf?, if_pos i.toInt_lt, Int64.ofInt_toInt]

theorem ofJson_ofBinary64 (x : Binary64) :
    ofJson (.ofBinary64 x) = if x.isFinite then .float x else .null := by
  rw [Json.ofBinary64]
  split <;> rfl

/-- What is read of the JSON form of a value is what is read back of the value. -/
theorem ofJson_toJson (value : FieldValue) : ofJson value.toJson = value.stored := by
  cases value with
  | integer i => exact ofJson_ofInt64 i
  | float x => exact ofJson_ofBinary64 x
  | json v =>
    cases v with
    | number n =>
      cases n with
      | integer i bounded =>
        by_cases small : i < 2 ^ 63
        · simp only [toJson, ofJson, integerOf?, stored, if_pos small]
        · simp only [toJson, ofJson, integerOf?, stored, if_neg small, binary64Of]
      | float x finite => rfl
    | _ => rfl
  | _ => rfl

/-- The values that come back as they are. -/
theorem stored_eq_self_iff {value : FieldValue} :
    value.stored = value ↔ (∀ t, value ≠ .instant t) ∧
      (∀ x, value = .float x → x.isFinite = true) ∧ value.isWrapped = false := by
  cases value with
  | float x => cases finite : x.isFinite <;> simp [stored, finite, isWrapped]
  | json v =>
    cases v with
    | number n =>
      cases n with
      | integer i bounded =>
        simp only [stored]
        split <;> simp [isWrapped, Json.isScalar]
      | float x finite => simp [stored, isWrapped, Json.isScalar]
    | _ => simp [stored, isWrapped, Json.isScalar]
  | _ => simp [stored, isWrapped]

end FieldValue

/-! ### Integers of 64 signed bits -/

namespace Json

mutual

/-- Whether every integer at any depth of a value is one of 64 signed bits. -/
def isNarrow : Json → Bool
  | .number (.integer i _) => i < 2 ^ 63
  | .array items => areNarrowItems items
  | .object members => areNarrowMembers members
  | _ => true

/-- Whether every integer in the items of an array is one of 64 signed bits. -/
def areNarrowItems : List Json → Bool
  | [] => true
  | item :: rest => isNarrow item && areNarrowItems rest

/-- Whether every integer in the members of an object is one of 64 signed bits. -/
def areNarrowMembers : List (String × Json) → Bool
  | [] => true
  | (_, value) :: rest => isNarrow value && areNarrowMembers rest

end

theorem areNarrowMembers_iff {members : List (String × Json)} :
    areNarrowMembers members = true ↔ ∀ m ∈ members, m.2.isNarrow = true := by
  induction members with
  | nil => simp [areNarrowMembers]
  | cons m rest ih => simp [areNarrowMembers, ih]

end Json

namespace Bson

mutual

/-- Just the values without larger integers are document values. -/
theorem isSome_ofJson? (v : Json) : (ofJson? v).isSome = v.isNarrow := by
  match v with
  | .null | .bool _ | .text _ | .number (.float _ _) => rfl
  | .number (.integer i bounded) =>
    rw [ofJson?, Json.isNarrow]
    by_cases small : i < 2 ^ 63
    · rw [if_pos small, decide_eq_true small, Option.isSome_some]
    · rw [if_neg small, decide_eq_false small, Option.isSome_none]
  | .array items => rw [ofJson?, Option.isSome_map, isSome_ofItems? items, Json.isNarrow]
  | .object members =>
    rw [ofJson?, Option.isSome_map, isSome_documentOfMembers? members, Json.isNarrow]

theorem isSome_ofItems? (items : List Json) :
    (ofItems? items).isSome = Json.areNarrowItems items := by
  match items with
  | [] => rfl
  | item :: rest =>
    rw [ofItems?, Json.areNarrowItems, ← isSome_ofJson? item, ← isSome_ofItems? rest]
    cases ofJson? item <;> cases ofItems? rest <;> rfl

theorem isSome_documentOfMembers? (members : List (String × Json)) :
    (documentOfMembers? members).isSome = Json.areNarrowMembers members := by
  match members with
  | [] => rfl
  | (name, v) :: rest =>
    rw [documentOfMembers?, Json.areNarrowMembers, ← isSome_ofJson? v,
      ← isSome_documentOfMembers? rest]
    cases ofJson? v <;> cases documentOfMembers? rest <;> rfl

end

end Bson

/-- Whether every integer at any depth of the JSON forms of the values is one of 64 signed bits. -/
def Fields.isNarrow (fields : Fields) : Bool :=
  Json.areNarrowMembers (Members.mapValues FieldValue.toJson fields.entries)

/-! ### Records -/

namespace Record

variable {record : Record} {tenant : Tenant}

/-- The payload of a record has the JSON forms of the fields, of which one may be in another
place. -/
theorem payload_perm (unnamed : record.get? "id" = none) :
    record.payload.Perm (Members.mapValues FieldValue.toJson record.fields.entries) := by
  have others : (record.members.filter fun m => m.1 != "id") =
      Members.mapValues FieldValue.toJson record.fields.entries := by
    rw [members_eq unnamed, filter_ne_id unnamed]
  exact others ▸ Members.vacate_perm record.names_members_nodup

/-- A record without marked names has a document just if its integers are narrow. -/
theorem exists_document_iff (unnamed : record.get? "id" = none)
    (unmarked : record.fields.isUnmarked = true) :
    (∃ document, record.document tenant = .ok document) ↔ record.fields.isNarrow = true := by
  have narrow : Json.areNarrowMembers record.payload = record.fields.isNarrow := by
    rw [Bool.eq_iff_iff, Fields.isNarrow, Json.areNarrowMembers_iff, Json.areNarrowMembers_iff]
    simp only [(payload_perm unnamed).mem_iff]
  have plain {fields : BsonDocument}
      (members : Bson.documentOfMembers? record.payload = some fields) :
      Bson.extended? fields = none := by
    refine Bson.extended?_of_unmarked fun name mem => ?_
    rw [Bson.names_documentOfMembers members] at mem
    obtain ⟨m, held, rfl⟩ := List.mem_map.1 mem
    exact (Json.areUnmarkedMembers_iff.1 (areUnmarkedMembers_payload unmarked) m held).1
  rw [← narrow, ← Bson.isSome_documentOfMembers?, Option.isSome_iff_exists]
  constructor
  · rintro ⟨document, written⟩
    obtain ⟨fields, members, -, -⟩ := document_eq_ok_iff.1 written
    exact ⟨fields, members⟩
  · rintro ⟨fields, members⟩
    exact ⟨_, document_eq_ok_iff.2 ⟨fields, members, plain members, rfl⟩⟩

/-- Members that have the JSON form of every field are read as what is read back of the fields. -/
theorem get?_ofFields_of_forms (unnamed : record.get? "id" = none) {members : List (String × Json)}
    (distinct : (Members.names members).Nodup)
    (forms : ∀ name, Members.get? name members =
      if name = "id" then none else (record.get? name).map FieldValue.toJson) (name : String) :
    (ofFields record.id members).get? name = (record.get? name).map FieldValue.stored := by
  rw [get?_ofFields record.id distinct, forms]
  by_cases own : name = "id"
  · rw [if_pos own, own, unnamed, Option.map_none]
  · rw [if_neg own, if_neg own, Option.map_map]
    exact congrArg (record.get? name).map (funext FieldValue.ofJson_toJson)

/-- **What a backend gives back.** A record without a field of the name of the identifier is read
back from its row, and if no name in it is marked and no integer is too large it has a document and
is read back from that. Either way it has the same identifier and the same fields, and each field
has what is stored of its value. -/
theorem stored_forms_read (unnamed : record.get? "id" = none) :
    (∀ (tenant : Tenant) (table : String), ∃ back,
      ofRow (record.row tenant table).id (record.row tenant table).data = .ok back ∧
      back.id = record.id ∧
      ∀ name, back.get? name = (record.get? name).map FieldValue.stored) ∧
    (record.fields.isUnmarked = true → record.fields.isNarrow = true →
      ∀ tenant : Tenant, ∃ document back,
        record.document tenant = .ok document ∧ ofDocument document = .ok back ∧
        back.id = record.id ∧
        ∀ name, back.get? name = (record.get? name).map FieldValue.stored) := by
  constructor
  · intro tenant table
    exact ⟨_, ofRow_object record.id record.payload, rfl,
      get?_ofFields_of_forms unnamed record.names_payload_nodup record.get?_payload⟩
  · intro unmarked narrow tenant
    obtain ⟨document, written⟩ := (exists_document_iff unnamed unmarked).2 narrow
    obtain ⟨fields, distinct, rfl, forms⟩ := exists_fields_of_document unmarked written
    have relaxed : (Members.names (Bson.relaxedMembers fields)).Nodup := by
      rw [Bson.relaxedMembers_eq]
      exact Members.names_mapValues_nodup distinct _
    refine ⟨_, ofFields record.id (Bson.relaxedMembers fields), written, rfl, rfl,
      get?_ofFields_of_forms unnamed relaxed fun name => ?_⟩
    rw [Bson.relaxedMembers_eq, Members.get?_mapValues, forms]

/-- A record with a field of each kind that changes, among fields that keep their kinds. -/
def reading : Record := ⟨"m1",
  ⟨[("count", .integer 5), ("share", .float (.ofInt 5)), ("ratio", .float (.nan false)),
    ("taken", .instant (.ofSeconds 1700000000)), ("unit", .json (.text "s")),
    ("raw", .json (.array [.ofInt64 5, .ofBinary64 (.ofInt 5)]))], by decide⟩⟩

theorem reading_is_given_back :
    ∃ fromRow document fromDocument,
      ofRow (reading.row ⟨"t"⟩ "readings").id (reading.row ⟨"t"⟩ "readings").data = .ok fromRow ∧
      reading.document ⟨"t"⟩ = .ok document ∧ ofDocument document = .ok fromDocument ∧
      ∀ back ∈ [fromRow, fromDocument], back.id = "m1" ∧
        back.get? "count" = some (.integer 5) ∧ back.get? "share" = some (.float (.ofInt 5)) ∧
        back.get? "ratio" = some .null ∧
        back.get? "taken" = some (.text "2023-11-14T22:13:20+00:00") ∧
        back.get? "unit" = some (.text "s") ∧ back.get? "raw" = reading.get? "raw" := by
  obtain ⟨rows, documents⟩ := @stored_forms_read reading rfl
  obtain ⟨fromRow, read, own, same⟩ := rows ⟨"t"⟩ "readings"
  obtain ⟨document, fromDocument, written, read', own', same'⟩ :=
    documents (by decide) (by decide) ⟨"t"⟩
  refine ⟨fromRow, document, fromDocument, read, written, read', fun back mem => ?_⟩
  have alike : back.id = reading.id ∧
      ∀ name, back.get? name = (reading.get? name).map FieldValue.stored := by
    rcases List.mem_pair.1 mem with rfl | rfl
    · exact ⟨own, same⟩
    · exact ⟨own', same'⟩
  refine ⟨alike.1, ?_, ?_, ?_, ?_, ?_, ?_⟩ <;> exact alike.2 _

end Record

end RecordStore
