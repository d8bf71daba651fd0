import RecordStore.Proofs.Record.Stored

/-!
# Records through JSON and back

The flat JSON object of a record is read as the record with its values in their stored form, in the
same order, and from then on nothing changes any more. The other way round, an object with a text
for an identifier is a record that is written as this object, with the identifier in front and with
the nearest floating-point number in place of an integer that is too large. The reader of serialized
results takes the object for the same record.

* `FieldValue.stored_stored` — a stored form is its own stored form;
* `FieldValue.toJson_ofJson`, `FieldValue.read_eq_ofJson` — a value that is read, and written again;
* `Record.ofJson?_toJson`, `Record.exists_ofJson?` — a record that is written, an object that is
  read;
* `Record.json_round_trips` — both ways.
-/

namespace RecordStore

/-! ### Values -/

/-- The value with the nearest floating-point number in place of an integer above those of 64 signed
bits. What is inside an array or an object stays as it is. -/
def Json.rounded : Json → Json
  | .number (.integer i bounded) =>
    if i < 2 ^ 63 then .number (.integer i bounded)
    else .number (.float (.ofInt i) (FieldValue.isFinite_binary64Of (.integer i bounded)))
  | v => v

namespace FieldValue

theorem stored_stored (value : FieldValue) : value.stored.stored = value.stored := by
  cases value with
  | float x => cases finite : x.isFinite <;> simp [stored, finite]
  | json v =>
    cases v with
    | number n =>
      cases n with
      | integer i bounded =>
        have finite : (Binary64.ofInt i).isFinite = true := Binary64.isFinite_ofInt (by omega)
        by_cases small : i < 2 ^ 63
        · simp only [stored, if_pos small]
        · simp only [stored, if_neg small, finite, if_true]
      | float x finite => simp [stored, finite]
    | _ => rfl
  | _ => rfl

/-- A value that is read is written as it was, but for integers that are too large. -/
theorem toJson_ofJson (v : Json) : (ofJson v).toJson = v.rounded := by
  cases v with
  | number n =>
    cases n with
    | integer i bounded =>
      by_cases small : i < 2 ^ 63
      · have kept : (Int64.ofInt i).toInt = i := Int64.toInt_ofInt_of_le bounded.1 small
        simp only [ofJson, integerOf?, if_pos small, toJson, Json.ofInt64, Json.rounded, kept]
      · simp only [ofJson, integerOf?, if_neg small, toJson, binary64Of, Json.rounded]
        exact dif_pos _
    | float x finite => exact dif_pos finite
  | _ => rfl

/-- The first kind that takes a JSON value is that of the value. -/
theorem read_eq_ofJson (v : Json) : read v = ofJson v := by
  cases v with
  | number n => cases integer : integerOf? n <;> simp [read, readers, ofJson, integer]
  | _ => rfl

end FieldValue

/-! ### Members -/

namespace Members

variable {α : Type} {name : String} {value : α} {members : List (String × α)}

theorem filter_eq_of_get? (distinct : (names members).Nodup) (h : get? name members = some value) :
    members.filter (fun m => m.1 == name) = [(name, value)] := by
  have single := only?_eq distinct name
  rw [h, only?] at single
  split at single
  · cases single
  · next key held alone =>
    have mem : (key, held) ∈ members.filter fun m => m.1 == name := by simp [alone]
    obtain rfl : key = name := beq_iff_eq.1 (List.mem_filter.1 mem).2
    rw [alone, Option.some.inj (Option.some.inj single)]
  · cases single

/-- A member can be moved to the front. -/
theorem perm_cons_filter (distinct : (names members).Nodup) (h : get? name members = some value) :
    members.Perm ((name, value) :: members.filter fun m => m.1 != name) := by
  have parted := List.filter_append_perm (fun m => m.1 == name) members
  rw [filter_eq_of_get? distinct h] at parted
  exact parted.symm

end Members

/-! ### Records -/

namespace Record

variable {record : Record}

/-- What is read of the JSON object of a record is the record in its stored form. -/
theorem ofJson?_toJson (unnamed : record.get? "id" = none) :
    ofJson? record.toJson = some ⟨record.id, record.fields.mapValues FieldValue.stored⟩ := by
  rw [toJson_eq unnamed, ofJson?_written unnamed, reread]
  simp only [FieldValue.ofJson_toJson]

/-- An object with a text for an identifier is read by either reader, and is written again with the
identifier in front. -/
theorem exists_ofJson? {members : List (String × Json)} {id : String}
    (distinct : (Json.object members).distinct = .object members)
    (named : Members.get? "id" members = some (.text id)) :
    ∃ back : Record, ofJson? (.object members) = some back ∧ read? (.object members) = some back ∧
      back.id = id ∧
      back.toJson = .object (("id", .text id) ::
        Members.mapValues Json.rounded (members.filter fun m => m.1 != "id")) := by
  obtain ⟨names, values⟩ := Json.distinct_object_iff.1 distinct
  let others := members.filter fun m => m.1 != "id"
  have apart : (Members.names (Members.mapValues FieldValue.ofJson others)).Nodup :=
    Members.names_mapValues_nodup (Members.names_filter_nodup names _) _
  let back : Record := ⟨id, ⟨Members.mapValues FieldValue.ofJson others, apart⟩⟩
  have fields : Fields.ofList (Members.mapValues FieldValue.ofJson others) = back.fields := by
    unfold Fields.ofList
    simp only [Members.distinct_of_nodup apart, back]
  refine ⟨back, ?_, ?_, rfl, ?_⟩
  · rw [ofJson?, named, fields, idOfJson]
  · have alike : Members.mapValues (fun v => FieldValue.read v.distinct) others =
        Members.mapValues FieldValue.ofJson others := by
      refine List.map_congr_left fun m mem => ?_
      show (m.1, FieldValue.read m.2.distinct) = _
      rw [values m (List.mem_filter.1 mem).1, FieldValue.read_eq_ofJson]
    rw [read?, Members.filter_eq_of_get? names named]
    simp only [alike, fields, others]
    rfl
  · have unnamed : back.get? "id" = none := by
      show Members.get? "id" (Members.mapValues FieldValue.ofJson others) = none
      rw [Members.get?_mapValues, Members.get?_filter_ne, if_pos rfl, Option.map_none]
    have written : Members.mapValues FieldValue.toJson (Members.mapValues FieldValue.ofJson others) =
        Members.mapValues Json.rounded others := by
      simp [Members.mapValues, FieldValue.toJson_ofJson]
    rw [toJson_eq unnamed, Record.written, written]

/-- **Records through JSON and back.** A record without a field of the name of the identifier is
written as an object that is read as a record with the same identifier, with the same names in the
same order, and with the stored forms of its values, which comes back unchanged when it is written
and read itself. An object with different names at any depth and with a text for an identifier is
read, by either reader, as one record, which is written with the members of the object in some order
and with the nearest floating-point numbers in place of integers that are too large. -/
theorem json_round_trips :
    (∀ record : Record, record.get? "id" = none → ∃ back, ofJson? record.toJson = some back ∧
      back.id = record.id ∧ back.fields.names = record.fields.names ∧
      (∀ name, back.get? name = (record.get? name).map FieldValue.stored) ∧
      ofJson? back.toJson = some back) ∧
    (∀ (members : List (String × Json)) (id : String),
      (Json.object members).distinct = .object members →
      Members.get? "id" members = some (.text id) →
      ∃ back written, ofJson? (.object members) = some back ∧ back.id = id ∧
        back.toJson = .object written ∧ written.Perm (Members.mapValues Json.rounded members) ∧
        read? (.object members) = some back) := by
  constructor
  · intro record unnamed
    have values (name : String) :
        (Record.mk record.id (record.fields.mapValues FieldValue.stored)).get? name =
          (record.get? name).map FieldValue.stored := Members.get?_mapValues _ _ _
    refine ⟨_, ofJson?_toJson unnamed, rfl, Members.names_mapValues _ _, values, ?_⟩
    rw [ofJson?_toJson (by rw [values, unnamed, Option.map_none])]
    simp [Fields.mapValues, Members.mapValues, FieldValue.stored_stored]
  · intro members id distinct named
    obtain ⟨back, read, read', own, written⟩ := exists_ofJson? distinct named
    refine ⟨back, _, read, own, written, ?_, read'⟩
    have moved := Members.perm_cons_filter (Json.distinct_object_iff.1 distinct).1 named
    exact (moved.map fun m => (m.1, Json.rounded m.2)).symm

/-- An object with its identifier between other members, and with an integer that is too large at
the top and in an array. -/
def receipt : List (String × Json) := [
  ("total", .number (.integer (2 ^ 63) (by omega))), ("id", .text "r1"),
  ("parts", .array [.number (.integer (2 ^ 63) (by omega)), .null]), ("paid", .bool true)]

theorem receipt_round_trip :
    (∃ back, ofJson? reading.toJson = some back ∧
      back.fields.names = ["count", "share", "ratio", "taken", "unit", "raw"] ∧
      back.get? "ratio" = some .null ∧
      back.get? "taken" = some (.text "2023-11-14T22:13:20+00:00") ∧
      back.get? "unit" = some (.text "s") ∧ ofJson? back.toJson = some back) ∧
    ∃ back written, ofJson? (.object receipt) = some back ∧ read? (.object receipt) = some back ∧
      back.id = "r1" ∧ back.toJson = .object written ∧
      written.Perm [("total", .ofBinary64 (.ofInt (2 ^ 63))), ("id", .text "r1"),
        ("parts", .array [.number (.integer (2 ^ 63) (by omega)), .null]), ("paid", .bool true)] := by
  obtain ⟨records, objects⟩ := json_round_trips
  obtain ⟨first, read, -, names, values, again⟩ := records reading rfl
  obtain ⟨second, written, read', own, shown, perm, read''⟩ := objects receipt "r1" rfl rfl
  exact ⟨⟨first, read, names, values _, values _, values _, again⟩,
    second, written, read', read'', own, shown, perm⟩

end Record

end RecordStore
