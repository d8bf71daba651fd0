import RecordStore.Document.Condition
import RecordStore.Proofs.Payload

/-!
# Fields in documents

A condition finds the value of a field at the path of the field, and a record that is read back from
the document has the relaxed form of that same value, as long as the name of the field has no point
in it, which the path would take for a step into another document.

* `documentField?` — the value that a condition on a field is about;
* `Record.document_eq_ok_iff` — the documents of records;
* `Record.exists_ofDocument` — what is read back, with `Record.fieldValue?_ofDocument_of_text` for
  what is a text.
-/

namespace RecordStore

/-! ### Paths -/

theorem splitOn_append_cons {α : Type} [DecidableEq α] {separator : α} {xs : List α}
    (h : separator ∉ xs) (ys : List α) :
    (xs ++ separator :: ys).splitOn separator = xs :: ys.splitOn separator := by
  have before : ∀ x ∈ xs, (x == separator) = false := by
    intro x mem
    rw [beq_eq_false_iff_ne]
    rintro rfl
    exact h mem
  exact List.splitOnP_append_cons_of_forall_mem before separator (beq_self_eq_true separator) ys

/-- The path of a field without points has one step into the document of fields. -/
theorem pathNames_innerPath {field : String} (undotted : '.' ∉ field.toList) :
    pathNames (innerPath field) = ["fields", field] := by
  have path : (innerPath field).toList = "fields".toList ++ '.' :: field.toList := by
    rw [innerPath, String.toList_append]
    rfl
  have split : (innerPath field).toList.splitOn '.' = ["fields".toList, field.toList] := by
    rw [path, splitOn_append_cons (by decide), List.splitOn_eq_singleton undotted]
  rw [pathNames, split]
  simp

/-- The path of a field without points leads into the document of fields, and that of the
identifier to the identifier. -/
theorem pathNames_fieldPath {field : String} (undotted : '.' ∉ field.toList) :
    pathNames (fieldPath field) = if field = "id" then ["id"] else ["fields", field] := by
  by_cases h : field = "id"
  · rw [if_pos h, fieldPath, if_pos h]
    decide
  · rw [if_neg h, fieldPath, if_neg h, pathNames_innerPath undotted]

/-- The value that a condition on a field is about. -/
def documentField? (document : BsonDocument) (field : String) : Option Bson :=
  (Bson.document document).atPath? (pathNames (fieldPath field))

/-! ### Objects that stand for values -/

namespace Bson

variable {fields : BsonDocument}

theorem textReaders_ne_document {entry : String × (String → Option Bson)}
    (mem : entry ∈ textReaders) (s : String) : entry.2 s ≠ some (.document fields) := by
  simp only [textReaders, List.mem_cons, List.not_mem_nil, or_false] at mem
  rcases mem with rfl | rfl | rfl | rfl | rfl | rfl | rfl <;> simp

theorem binaryOf?_ne_document (value : Bson) : binaryOf? value ≠ some (.document fields) := by
  unfold binaryOf?
  split <;> simp [Option.bind_eq_some_iff]

theorem timestampOf?_ne_document (t i : Bson) : timestampOf? t i ≠ some (.document fields) := by
  unfold timestampOf?
  split <;> simp [Option.bind_eq_some_iff]

theorem referenceOf?_ne_document (value : Bson) : referenceOf? value ≠ some (.document fields) := by
  unfold referenceOf?
  intro h
  obtain ⟨_, -, h⟩ := Option.bind_eq_some_iff.1 h
  obtain ⟨_, -, h⟩ := Option.bind_eq_some_iff.1 h
  obtain ⟨id, -, h⟩ := Option.bind_eq_some_iff.1 h
  cases id <;> cases h

theorem markerOf?_ne_document {marker : Bson} (value : Bson) (h : marker ≠ .document fields) :
    markerOf? marker value ≠ some (.document fields) := by
  unfold markerOf?
  split <;> simp [h]

theorem readers_ne_document {entry : String × (Bson → Option Bson)} (mem : entry ∈ readers)
    (value : Bson) : entry.2 value ≠ some (.document fields) := by
  simp only [readers, List.mem_cons, List.not_mem_nil, or_false] at mem
  rcases mem with rfl | rfl | rfl | rfl | rfl | rfl | rfl | rfl | rfl
  · simp [-Option.map_bind]
  · exact binaryOf?_ne_document value
  · simp [Option.bind_eq_some_iff, timestampOf?_ne_document]
  · simp [regexOf?, sortedRegex, Option.bind_eq_some_iff]
  · exact referenceOf?_ne_document value
  · simp only [dateOf?]
    split <;> simp
  · exact markerOf?_ne_document value nofun
  · exact markerOf?_ne_document value nofun
  · dsimp only
    split <;> simp

/-- What an object of extended JSON stands for is no document. -/
theorem extended?_ne_document (members : BsonDocument) :
    extended? members ≠ some (.document fields) := by
  unfold extended?
  split
  · next name value =>
    split
    · next read found =>
      intro h
      obtain ⟨s, -, h⟩ := Option.bind_eq_some_iff.1 h
      exact textReaders_ne_document ((Members.get?_eq_some_iff (by decide)).1 found) s h
    · intro h
      obtain ⟨read, found, h⟩ := Option.bind_eq_some_iff.1 h
      exact readers_ne_document ((Members.get?_eq_some_iff (by decide)).1 found) value h
  · next first a second b =>
    have withScope (source scope : Bson) :
        scopedCodeOf? source scope ≠ some (.document fields) := by
      unfold scopedCodeOf?
      split <;> simp
    split
    · exact withScope a b
    · split
      · exact withScope b a
      · exact nofun
  · exact nofun

theorem ofMembers_eq_document_iff {members : BsonDocument} :
    ofMembers members = .document fields ↔ extended? members = none ∧ members = fields := by
  unfold ofMembers
  cases h : extended? members with
  | none => simp
  | some value =>
    have other : value ≠ .document fields := by
      rintro rfl
      exact extended?_ne_document members h
    simp [other]

/-! ### Members -/

/-- The members of a document are those of the object, each with its document value. -/
theorem documentOfMembers?_cons {name : String} {value : Json} {rest : List (String × Json)} :
    documentOfMembers? ((name, value) :: rest) = some fields ↔
      ∃ b others, ofJson? value = some b ∧ documentOfMembers? rest = some others ∧
        fields = (name, b) :: others := by
  rw [documentOfMembers?]
  cases ofJson? value with
  | none => simp
  | some b =>
    cases documentOfMembers? rest with
    | none => simp
    | some others => simp [eq_comm]

theorem names_documentOfMembers {members : List (String × Json)}
    (h : documentOfMembers? members = some fields) :
    Members.names fields = Members.names members := by
  induction members generalizing fields with
  | nil =>
    cases h
    rfl
  | cons m rest ih =>
    obtain ⟨b, others, -, written, rfl⟩ := documentOfMembers?_cons.1 h
    rw [Members.names_cons, Members.names_cons, ih written]

theorem get?_documentOfMembers {members : List (String × Json)}
    (h : documentOfMembers? members = some fields) (name : String) :
    Members.get? name fields = (Members.get? name members).bind ofJson? := by
  induction members generalizing fields with
  | nil =>
    cases h
    rfl
  | cons m rest ih =>
    obtain ⟨b, others, here, written, rfl⟩ := documentOfMembers?_cons.1 h
    rw [Members.get?, Members.get?]
    split
    · rw [Option.bind_some, here]
    · exact ih written

/-- An integer is written as a number or, out of range, as `null`. -/
theorem ofInt_cases (i : Int) : (∃ n, Json.ofInt i = .number n) ∨ Json.ofInt i = .null := by
  unfold Json.ofInt
  cases JsonNumber.ofInt? i with
  | none => exact .inr rfl
  | some n => exact .inl ⟨n, rfl⟩

/-- What is neither a text nor a Boolean is not written as one. -/
theorem relaxed_ne_of_ne {value : Bson} (noText : ∀ s, value ≠ .text s)
    (noBoolean : ∀ b, value ≠ .boolean b) :
    (∀ s, value.relaxed ≠ .text s) ∧ ∀ b, value.relaxed ≠ .bool b := by
  cases value with
  | text s => exact absurd rfl (noText s)
  | boolean b => exact absurd rfl (noBoolean b)
  | int32 i => rcases ofInt_cases i.toInt with ⟨n, h⟩ | h <;> simp [relaxed, h]
  | double x =>
    cases x with
    | nan negative => simp [relaxed, relaxedDouble, marked]
    | real negative rank =>
      rw [relaxed, relaxedDouble]
      split <;> simp [marked]
  | date millis =>
    rw [relaxed, relaxedDate]
    split <;> simp [marked, canonicalDate]
  | _ => simp [relaxed, plain, marked, Json.ofInt64]

theorem relaxed_eq_text_iff {value : Bson} {s : String} :
    value.relaxed = .text s ↔ value = .text s := by
  constructor
  · intro written
    by_contra other
    cases value with
    | text t => exact other (congrArg Bson.text (Json.text.inj written))
    | boolean b => cases written
    | _ => exact (relaxed_ne_of_ne (by simp) (by simp)).1 s written
  · rintro rfl
    rfl

theorem relaxed_eq_bool_iff {value : Bson} {b : Bool} :
    value.relaxed = .bool b ↔ value = .boolean b := by
  constructor
  · intro written
    by_contra other
    cases value with
    | text t => cases written
    | boolean c => exact other (congrArg Bson.boolean (Json.bool.inj written))
    | _ => exact (relaxed_ne_of_ne (by simp) (by simp)).2 b written
  · rintro rfl
    rfl

theorem relaxedMembers_eq (fields : BsonDocument) :
    relaxedMembers fields = Members.mapValues relaxed fields := by
  induction fields with
  | nil => rfl
  | cons m rest ih => rw [relaxedMembers, ih]; rfl

end Bson

/-! ### Records -/

namespace Record

variable {record : Record} {tenant : Tenant} {document : BsonDocument}

/-- The documents of a record: its fields have document values, and taken together they do not stand
for anything but a document. -/
theorem document_eq_ok_iff :
    record.document tenant = .ok document ↔
      ∃ fields, Bson.documentOfMembers? record.payload = some fields ∧
        Bson.extended? fields = none ∧
        document = [
          ("_id", .text (documentKey tenant record.id)), ("tenant_id", .text tenant.name),
          ("id", .text record.id), ("fields", .document fields)] := by
  have fieldDocument (fields : BsonDocument) : record.fieldDocument = .ok fields ↔
      Bson.documentOfMembers? record.payload = some fields ∧ Bson.extended? fields = none := by
    rw [Record.fieldDocument, Bson.ofJson?]
    cases h : Bson.documentOfMembers? record.payload with
    | none => simp
    | some members =>
      rw [Option.map_some, Option.some.injEq]
      constructor
      · intro ok
        split at ok
        · cases ok
        · next read =>
          obtain ⟨unmarked, rfl⟩ := Bson.ofMembers_eq_document_iff.1 (Option.some.inj read)
          cases ok
          exact ⟨rfl, unmarked⟩
        · cases ok
      · rintro ⟨rfl, unmarked⟩
        rw [Bson.ofMembers_eq_document_iff.2 ⟨unmarked, rfl⟩]
  unfold Record.document
  constructor
  · intro ok
    cases h : record.fieldDocument with
    | error e => simp [h, bind, Except.bind] at ok
    | ok fields =>
      obtain ⟨members, unmarked⟩ := (fieldDocument fields).1 h
      rw [h] at ok
      cases ok
      exact ⟨fields, members, unmarked, rfl⟩
  · rintro ⟨fields, members, unmarked, rfl⟩
    rw [(fieldDocument fields).2 ⟨members, unmarked⟩]
    rfl

/-- From the document of a record a record is read back, in each of whose fields without a point in
the name is the relaxed form of what a condition on the field is about. -/
theorem exists_ofDocument (written : record.document tenant = .ok document) :
    ∃ back, ofDocument document = .ok back ∧ ∀ field : String, '.' ∉ field.toList →
      back.fieldValue? field =
        (documentField? document field).map fun value => FieldValue.ofJson value.relaxed := by
  obtain ⟨fields, members, -, rfl⟩ := document_eq_ok_iff.1 written
  have distinct : (Members.names fields).Nodup := by
    rw [Bson.names_documentOfMembers members]
    exact record.names_payload_nodup
  refine ⟨ofFields record.id (Bson.relaxedMembers fields), rfl, fun field undotted => ?_⟩
  rw [documentField?, pathNames_fieldPath undotted, Bson.relaxedMembers_eq,
    fieldValue?_ofFields record.id (Members.names_mapValues_nodup distinct _)]
  by_cases h : field = "id"
  · rw [if_pos h, if_pos h]
    rfl
  · have found : (Bson.document [
        ("_id", .text (documentKey tenant record.id)), ("tenant_id", .text tenant.name),
        ("id", .text record.id), ("fields", .document fields)]).atPath? ["fields", field] =
          Members.get? field fields := by
      have inner : (Bson.document fields).atPath? [field] = Members.get? field fields := by
        rw [Bson.atPath?]
        cases Members.get? field fields <;> rfl
      exact inner
    rw [if_neg h, if_neg h, found, Members.get?_mapValues, Option.map_map]
    rfl

/-- What is a text, or is taken for one, is read back as that text. -/
theorem fieldValue?_ofDocument_of_text {back : Record} (written : record.document tenant = .ok document)
    (read : ofDocument document = .ok back) {field s : String}
    (text : (record.fieldValue? field).bind FieldValue.asText? = some s) :
    back.fieldValue? field = some (.text s) := by
  obtain ⟨fields, members, -, rfl⟩ := document_eq_ok_iff.1 written
  cases read
  have distinct : (Members.names (Bson.relaxedMembers fields)).Nodup := by
    rw [Bson.relaxedMembers_eq]
    refine Members.names_mapValues_nodup ?_ _
    rw [Bson.names_documentOfMembers members]
    exact record.names_payload_nodup
  rw [fieldValue?_ofFields record.id distinct]
  rw [fieldValue?] at text
  by_cases own : field = "id"
  · rw [if_pos own] at text ⊢
    exact congrArg (Option.map FieldValue.text) text
  · rw [if_neg own] at text ⊢
    obtain ⟨value, held, isText⟩ := Option.bind_eq_some_iff.1 text
    have form : value.toJson = .text s := by
      cases value with
      | text t => exact congrArg Json.text (Option.some.inj isText)
      | instant t => exact congrArg Json.text (Option.some.inj isText)
      | null | boolean | integer | float | json => simp [FieldValue.asText?] at isText
    rw [Bson.relaxedMembers_eq, Members.get?_mapValues, Bson.get?_documentOfMembers members,
      get?_payload, if_neg own, held, Option.map_some, form]
    rfl

end Record

end RecordStore
