import RecordStore.Proofs.Record.Stored

/-!
# The order of stored fields

The identifier is the first member of the JSON object of a record, and what is stored is that object
without it. The last member moves into its place, so that the last field becomes the first one and
the others keep their order. A record that is read back has its fields in the order in which they
are stored.

* `Members.turned`, `Members.turned_eq_self_iff` — the last name first;
* `Members.names_vacate_first` — taking out the first member;
* `Record.names_payload`, `Record.names_ofFields` — what is stored and what is read;
* `Record.names_stored` — rows and documents;
* `Record.two_fields_change_places` — the smallest record that does not keep its order.
-/

namespace RecordStore

/-! ### The last name first -/

namespace Members

variable {α : Type}

/-- The names with the last one before the others. -/
def turned (names : List String) : List String := names.getLast?.toList ++ names.dropLast

/-- No name or one name is in order with the last one first, two different ones are not. -/
theorem turned_eq_self_iff {names : List String} (distinct : names.Nodup) :
    turned names = names ↔ names.length ≤ 1 := by
  rcases List.eq_nil_or_concat' names with rfl | ⟨before, last, rfl⟩
  · simp [turned]
  · cases before with
    | nil => simp [turned]
    | cons first between =>
      have apart : last ≠ first := by
        rintro rfl
        exact (List.nodup_cons.1 distinct).1 (List.mem_append_right _ List.mem_cons_self)
      rw [turned, List.getLast?_concat, List.dropLast_concat]
      simp [apart]

/-- The last of the others moves into the place of the first member. -/
theorem names_vacate_first (name : String) (value : α) (others : List (String × α)) :
    names (vacate name ((name, value) :: others)) = turned (names others) := by
  rw [vacate, if_pos rfl]
  rcases List.eq_nil_or_concat' others with rfl | ⟨before, last, rfl⟩
  · rfl
  · simp [turned, names]

end Members

namespace Record

variable {record : Record}

/-! ### Storing -/

/-- The members that are stored are those of the fields, the last one first. -/
theorem names_payload (unnamed : record.get? "id" = none) :
    Members.names record.payload = Members.turned record.fields.names := by
  rw [payload, members_eq unnamed, Members.names_vacate_first, Members.names_mapValues, Fields.names]

theorem id_notMem_names_payload (record : Record) : "id" ∉ Members.names record.payload := by
  rw [← Members.get?_eq_none_iff, get?_payload, if_pos rfl]

/-! ### Reading -/

/-- The fields are read in the order of the members. -/
theorem names_ofFields (id : String) {members : List (String × Json)}
    (distinct : (Members.names members).Nodup) (unnamed : "id" ∉ Members.names members) :
    (ofFields id members).fields.names = Members.names members := by
  have kept : members.filter (fun m => m.1 != "id") = members := by
    rw [List.filter_eq_self]
    intro m mem
    have other : m.1 ≠ "id" := fun same => unnamed (same ▸ List.mem_map_of_mem mem)
    simpa using other
  have read : (Members.names (Members.mapValues FieldValue.ofJson members)).Nodup :=
    Members.names_mapValues_nodup distinct _
  show Members.names (Members.distinct (Members.mapValues FieldValue.ofJson
    (members.filter fun m => m.1 != "id"))) = _
  rw [kept, Members.distinct_of_nodup read, Members.names_mapValues]

/-- **The order of stored fields.** In the row of a record, and in its document if it has one, the
last field stands before the others, and so it does in the record that is read back. This is the
order of the record only where there is no second field. -/
theorem names_stored (unnamed : record.get? "id" = none) :
    (∀ (tenant : Tenant) (table : String), ∃ members back,
      (record.row tenant table).data = .object members ∧
      Members.names members = Members.turned record.fields.names ∧
      ofRow (record.row tenant table).id (record.row tenant table).data = .ok back ∧
      back.fields.names = Members.turned record.fields.names) ∧
    (∀ tenant : Tenant,
      (record.fields.isUnmarked = true → record.fields.isNarrow = true →
        ∃ document, record.document tenant = .ok document) ∧
      ∀ document, record.document tenant = .ok document → ∃ fields back,
        Members.get? "fields" document = some (.document fields) ∧
        Members.names fields = Members.turned record.fields.names ∧
        ofDocument document = .ok back ∧
        back.fields.names = Members.turned record.fields.names) ∧
    (Members.turned record.fields.names = record.fields.names ↔ record.fields.names.length ≤ 1) := by
  refine ⟨fun tenant table => ?_, fun tenant => ⟨fun unmarked narrow => ?_, fun document written =>
    ?_⟩, Members.turned_eq_self_iff record.fields.nodup⟩
  · refine ⟨record.payload, _, rfl, names_payload unnamed, ofRow_object _ _, ?_⟩
    rw [names_ofFields _ record.names_payload_nodup record.id_notMem_names_payload,
      names_payload unnamed]
  · exact (exists_document_iff unnamed unmarked).2 narrow
  · obtain ⟨fields, members, -, rfl⟩ := document_eq_ok_iff.1 written
    have named : Members.names fields = Members.names record.payload :=
      Bson.names_documentOfMembers members
    have relaxed : Members.names (Bson.relaxedMembers fields) = Members.names record.payload := by
      rw [Bson.relaxedMembers_eq, Members.names_mapValues, named]
    refine ⟨fields, ofFields record.id (Bson.relaxedMembers fields), rfl,
      named.trans (names_payload unnamed), rfl, ?_⟩
    rw [names_ofFields _ (relaxed ▸ record.names_payload_nodup)
      (relaxed ▸ record.id_notMem_names_payload), relaxed, names_payload unnamed]

/-- A record with three fields. -/
def parcel : Record := ⟨"p1",
  ⟨[("city", .text "Oslo"), ("weight", .integer 7), ("sent", .boolean true)], by decide⟩⟩

theorem parcel_is_turned :
    parcel.get? "id" = none ∧ parcel.fields.names = ["city", "weight", "sent"] ∧
    ∃ document back, parcel.document ⟨"acme"⟩ = .ok document ∧ ofDocument document = .ok back ∧
      back.fields.names = ["sent", "city", "weight"] := by
  obtain ⟨-, documents, -⟩ := @names_stored parcel rfl
  obtain ⟨convertible, readable⟩ := documents ⟨"acme"⟩
  obtain ⟨document, written⟩ := convertible (by decide) (by decide)
  obtain ⟨-, back, -, -, read, order⟩ := readable document written
  exact ⟨rfl, rfl, document, back, written, read, order⟩

/-- The smallest record that is stored in another order, and read back so. -/
theorem two_fields_change_places :
    ∃ (record : Record) (members : List (String × Json)) (fields document : BsonDocument)
      (fromRow fromDocument : Record),
      record.get? "id" = none ∧ record.fields.names = ["x", "y"] ∧
      (record.row ⟨"acme"⟩ "items").data = .object members ∧
      Members.names members = ["y", "x"] ∧
      ofRow record.id (.object members) = .ok fromRow ∧ fromRow.fields.names = ["y", "x"] ∧
      record.document ⟨"acme"⟩ = .ok document ∧
      Members.get? "fields" document = some (.document fields) ∧
      Members.names fields = ["y", "x"] ∧
      ofDocument document = .ok fromDocument ∧ fromDocument.fields.names = ["y", "x"] :=
  ⟨⟨"a", ⟨[("x", .integer 1), ("y", .integer 2)], by decide⟩⟩, _, _, _, _, _,
    rfl, rfl, rfl, rfl, rfl, rfl, rfl, rfl, rfl, rfl, rfl⟩

end Record

end RecordStore
