import RecordStore.Document.Update
import RecordStore.Proofs.Bson.Embedding
import RecordStore.Proofs.Error
import RecordStore.Proofs.Record.Json
import RecordStore.Proofs.Record.Merge

/-!
# Updates of documents and of records

A record in a document is updated in place, by members that are set and members that are removed. On
every field this comes to the same as merging the patch into the record and stamping the write,
although the two treat the identifier, the stamps and `null` each in a way of its own.

* `BsonDocument.updated?` — the effect of a written update, member by member along its paths;
* `DocumentUpdate.get?_apply` — the value of each field after the update of a patch;
* `DocumentUpdate.updated?_document` — the written update changes the document of fields alone;
* `Record.ofDocument_updated` — what is read back from the document after the update.
-/

namespace RecordStore

/-! ### The effect of a written update -/

/-- Whether a name can be a step of a path: it is not empty and no operator. -/
def isPathStep (name : String) : Bool := !name.isEmpty && !isMarkedName name

namespace BsonDocument

/-- Change the member that a path leads to. The documents on the way have to be there. -/
def changeAt? (change : String → BsonDocument → BsonDocument) :
    List String → BsonDocument → Option BsonDocument
  | [], _ => none
  | [name], members => if isPathStep name then some (change name members) else none
  | name :: rest, members =>
    match Members.get? name members with
    | some (.document inner) =>
      (changeAt? change rest inner).map fun changed => Members.put name (.document changed) members
    | _ => none

/-- The operands of an operator of a written update, by their paths. -/
def operands (operator : String) (update : BsonDocument) : BsonDocument :=
  match Members.get? operator update with
  | some (.document members) => members
  | _ => []

/-- The document after a written update, which sets the members at some paths and removes those at
other ones. -/
def updated? (update document : BsonDocument) : Option BsonDocument := do
  let assigned ← (operands "$set" update).foldlM (fun rest operand =>
    changeAt? (fun name => Members.put name operand.2) (pathNames operand.1) rest) document
  (operands "$unset" update).foldlM (fun rest operand =>
    changeAt? Members.erase (pathNames operand.1) rest) assigned

end BsonDocument

/-! ### The entries of a patch -/

namespace FieldUpdate

variable {now name : String} {value : FieldValue} {update : FieldUpdate}

/-- Whether a field is out of reach of a patch. -/
def IsReserved (name : String) : Prop := name = "id" ∨ name = updatedAt

instance (name : String) : Decidable (IsReserved name) := inferInstanceAs (Decidable (_ ∨ _))

/-- What an entry of a patch assigns to its field, if it is not to be removed. -/
def assigned? (now name : String) (value : FieldValue) : Option Bson :=
  if value.isNull then (if name = createdAt then some (.text now) else none)
  else Bson.ofJson? value.toJson

theorem ofEntry_eq (now name : String) (value : FieldValue) :
    ofEntry now (name, value) =
      if IsReserved name then .ok .keep
      else if value.isNull then
        .ok (if name = createdAt then .assign name (.text now) else .remove name)
      else match Bson.ofJson? value.toJson with
        | some stored => .ok (.assign name stored)
        | none => .error DocumentFault.unsuitableField.error := rfl

/-- The effect of an entry: none on a field out of reach, and else an assignment to the field or its
removal. -/
theorem ofEntry_cases (h : ofEntry now (name, value) = .ok update) :
    (IsReserved name ∧ update = .keep) ∨
    (¬ IsReserved name ∧ assigned? now name value = none ∧ update = .remove name) ∨
    (¬ IsReserved name ∧
      ∃ stored, assigned? now name value = some stored ∧ update = .assign name stored) := by
  rw [ofEntry_eq] at h
  unfold assigned?
  by_cases reserved : IsReserved name
  · rw [if_pos reserved] at h
    cases h
    exact .inl ⟨reserved, rfl⟩
  · rw [if_neg reserved] at h
    cases null : value.isNull with
    | true =>
      rw [null, if_pos rfl] at h
      cases h
      by_cases created : name = createdAt
      · exact .inr (.inr ⟨reserved, .text now, by simp [created], by simp [created]⟩)
      · exact .inr (.inl ⟨reserved, by simp [created], by simp [created]⟩)
    | false =>
      rw [null, if_neg (by decide)] at h
      cases stored : Bson.ofJson? value.toJson with
      | none => simp [stored] at h
      | some b =>
        rw [stored] at h
        cases h
        exact .inr (.inr ⟨reserved, b, by simp, rfl⟩)

/-- The entries of a patch with their effects. -/
abbrev Effects (now : String) : List (String × FieldValue) → List FieldUpdate → Prop :=
  List.Forall₂ fun entry update => ofEntry now entry = .ok update

variable {entries : List (String × FieldValue)} {updates : List FieldUpdate}

theorem names_assignments_sublist (h : Effects now entries updates) :
    (Members.names (assignments updates)).Sublist (Members.names entries) := by
  induction h with
  | nil => exact .refl _
  | cons first _ ih =>
    rcases ofEntry_cases first with ⟨-, rfl⟩ | ⟨-, -, rfl⟩ | ⟨-, stored, -, rfl⟩
    · exact ih.cons _
    · exact ih.cons _
    · exact ih.cons_cons _

/-- What is assigned to a field by the entry of its name. -/
theorem get?_assignments (distinct : (Members.names entries).Nodup)
    (h : Effects now entries updates) (name : String) :
    Members.get? name (assignments updates) =
      if IsReserved name then none
      else (Members.get? name entries).bind (assigned? now name) := by
  induction h with
  | nil => simp [assignments, Members.get?]
  | @cons entry update rest _ first others ih =>
    obtain ⟨key, value⟩ := entry
    rw [Members.names_cons, List.nodup_cons] at distinct
    have ih := ih distinct.2
    rw [Members.get?]
    by_cases same : key = name
    · -- no later entry has this name
      subst same
      rw [Members.get?_eq_none_of_notMem distinct.1] at ih
      rw [if_pos rfl, Option.bind_some]
      rcases ofEntry_cases first with
        ⟨reserved, rfl⟩ | ⟨free, unassigned, rfl⟩ | ⟨free, b, assigned, rfl⟩
      · rw [if_pos reserved] at ih ⊢
        exact ih
      · rw [if_neg free] at ih ⊢
        rw [unassigned]
        exact ih
      · rw [if_neg free, assigned]
        exact if_pos rfl
    · rw [if_neg same]
      rcases ofEntry_cases first with ⟨-, rfl⟩ | ⟨-, -, rfl⟩ | ⟨-, b, -, rfl⟩
      · exact ih
      · exact ih
      · exact (if_neg same).trans ih

/-- The fields that are removed are those whose entries assign nothing to them. -/
theorem mem_removals (distinct : (Members.names entries).Nodup)
    (h : Effects now entries updates) (name : String) :
    name ∈ removals updates ↔
      ¬ IsReserved name ∧ ∃ value, Members.get? name entries = some value ∧
        assigned? now name value = none := by
  induction h with
  | nil => simp [removals, Members.get?]
  | @cons entry update rest effects first others ih =>
    obtain ⟨key, value⟩ := entry
    rw [Members.names_cons, List.nodup_cons] at distinct
    have ih := ih distinct.2
    rw [Members.get?]
    by_cases same : key = name
    · subst same
      rw [Members.get?_eq_none_of_notMem distinct.1] at ih
      have later : key ∉ removals effects := by
        intro mem
        obtain ⟨-, _, missing, -⟩ := ih.1 mem
        cases missing
      rw [if_pos rfl]
      rcases ofEntry_cases first with
        ⟨reserved, rfl⟩ | ⟨free, unassigned, rfl⟩ | ⟨free, b, assigned, rfl⟩
      · exact iff_of_false later fun h => h.1 reserved
      · exact iff_of_true List.mem_cons_self ⟨free, value, rfl, unassigned⟩
      · refine iff_of_false later ?_
        rintro ⟨-, _, held, unassigned⟩
        rw [← Option.some.inj held, assigned] at unassigned
        cases unassigned
    · rw [if_neg same]
      rcases ofEntry_cases first with ⟨-, rfl⟩ | ⟨-, -, rfl⟩ | ⟨-, b, -, rfl⟩
      · exact ih
      · exact (List.mem_cons.trans (or_iff_right (Ne.symm same))).trans ih
      · exact ih

/-- A value that is assigned has a document value. -/
theorem exists_stored (h : Effects now entries updates) (mem : (name, value) ∈ entries)
    (free : ¬ IsReserved name) (present : value.isNull = false) :
    ∃ stored, Bson.ofJson? value.toJson = some stored := by
  induction h with
  | nil => exact nomatch mem
  | cons first _ ih =>
    rcases List.mem_cons.1 mem with rfl | later
    · rw [ofEntry_eq, if_neg free, present, if_neg Bool.false_ne_true] at first
      cases stored : Bson.ofJson? value.toJson with
      | some b => exact ⟨b, rfl⟩
      | none => simp [stored] at first
    · exact ih later

end FieldUpdate

/-! ### The update of a patch -/

namespace DocumentUpdate

variable {patch : Patch} {now name : String} {update : DocumentUpdate}
  {fields document : BsonDocument}

theorem exists_of_update (h : patch.update now = .ok update) :
    ∃ updates, FieldUpdate.Effects now patch.entries updates ∧
      update = ⟨FieldUpdate.assignments updates ++ [(updatedAt, .text now)],
        FieldUpdate.removals updates⟩ := by
  cases effects : patch.entries.mapM (FieldUpdate.ofEntry now) with
  | error e => simp [Patch.update, effects, bind, Except.bind] at h
  | ok updates =>
    simp only [Patch.update, effects, bind, Except.bind, Except.ok.injEq] at h
    exact ⟨updates, mapM_eq_ok_iff.1 effects, h.symm⟩

/-- The time of the write is assigned whatever the patch says. -/
theorem get?_assigned (h : patch.update now = .ok update) (name : String) :
    Members.get? name update.assigned =
      if name = updatedAt then some (.text now)
      else if name = "id" then none
      else (patch.get? name).bind (FieldUpdate.assigned? now name) := by
  obtain ⟨updates, effects, rfl⟩ := exists_of_update h
  rw [Members.get?_append, FieldUpdate.get?_assignments patch.nodup effects]
  by_cases updated : name = updatedAt
  · rw [if_pos updated, if_pos (.inr updated)]
    exact if_pos updated.symm
  · have last : Members.get? name [(updatedAt, Bson.text now)] = none := if_neg (Ne.symm updated)
    rw [if_neg updated, last, Option.or_none]
    by_cases own : name = "id"
    · rw [if_pos (.inl own), if_pos own]
    · rw [if_neg own, if_neg fun reserved => reserved.elim own updated]
      rfl

theorem names_assigned_nodup (h : patch.update now = .ok update) :
    (Members.names update.assigned).Nodup := by
  obtain ⟨updates, effects, rfl⟩ := exists_of_update h
  have unstamped : updatedAt ∉ Members.names (FieldUpdate.assignments updates) := by
    rw [← Members.get?_eq_none_iff, FieldUpdate.get?_assignments patch.nodup effects]
    exact if_pos (.inr rfl)
  have appended : Members.names (FieldUpdate.assignments updates ++ [(updatedAt, .text now)]) =
      Members.names (FieldUpdate.assignments updates) ++ [updatedAt] := List.map_append
  rw [appended, List.nodup_append]
  refine ⟨patch.nodup.sublist (FieldUpdate.names_assignments_sublist effects),
    List.pairwise_singleton _ _, fun other mem last stamp => ?_⟩
  rw [List.mem_singleton.1 stamp]
  rintro rfl
  exact unstamped mem

theorem mem_removed (h : patch.update now = .ok update) :
    name ∈ update.removed ↔
      ¬ FieldUpdate.IsReserved name ∧ ∃ value, patch.get? name = some value ∧
        FieldUpdate.assigned? now name value = none := by
  obtain ⟨updates, effects, rfl⟩ := exists_of_update h
  exact FieldUpdate.mem_removals patch.nodup effects name

/-- No field is both set and removed. -/
theorem notMem_removed (h : patch.update now = .ok update)
    (assigned : name ∈ Members.names update.assigned) : name ∉ update.removed := by
  intro mem
  obtain ⟨free, value, found, unassigned⟩ := (mem_removed h).1 mem
  refine Members.get?_eq_none_iff.1 ?_ assigned
  rw [get?_assigned h, if_neg fun updated => free (.inr updated),
    if_neg fun own => free (.inl own), found]
  exact unassigned

/-- Only fields of the patch are changed, and the time of the write. -/
theorem mem_names_patch (h : patch.update now = .ok update)
    (mem : name ∈ Members.names update.assigned ∨ name ∈ update.removed) :
    name = updatedAt ∨ name ∈ patch.names := by
  by_contra other
  obtain ⟨unstamped, unnamed⟩ := not_or.1 other
  have missing : patch.get? name = none := Members.get?_eq_none_of_notMem unnamed
  rcases mem with assigned | removed
  · refine Members.get?_eq_none_iff.1 ?_ assigned
    rw [get?_assigned h, if_neg unstamped, missing]
    exact ite_self none
  · obtain ⟨-, value, found, -⟩ := (mem_removed h).1 removed
    exact nomatch missing.symm.trans found

theorem names_apply_nodup (distinct : (Members.names fields).Nodup) :
    (Members.names (update.apply fields)).Nodup :=
  Members.nodup_foldl_erase (Members.nodup_putAll distinct) _

/-- The value of each field after an update. -/
theorem get?_apply (h : patch.update now = .ok update) (distinct : (Members.names fields).Nodup)
    (name : String) :
    Members.get? name (update.apply fields) =
      if name = updatedAt then some (.text now)
      else if name = "id" then Members.get? name fields
      else match patch.get? name with
        | some value => FieldUpdate.assigned? now name value
        | none => Members.get? name fields := by
  rw [apply, Members.get?_foldl_erase (Members.nodup_putAll distinct),
    Members.get?_putAll (names_assigned_nodup h), get?_assigned h]
  by_cases updated : name = updatedAt
  · rw [if_pos updated, if_pos updated, if_neg fun mem => ((mem_removed h).1 mem).1 (.inr updated)]
    rfl
  rw [if_neg updated, if_neg updated]
  by_cases own : name = "id"
  · rw [if_pos own, if_pos own, if_neg fun mem => ((mem_removed h).1 mem).1 (.inl own)]
    rfl
  rw [if_neg own, if_neg own]
  have free : ¬ FieldUpdate.IsReserved name := fun reserved => reserved.elim own updated
  simp only [mem_removed h, free, not_false_eq_true, true_and]
  cases found : patch.get? name with
  | none => simp
  | some value => cases assigned : FieldUpdate.assigned? now name value <;> simp [assigned]

/-! ### The written update -/

theorem operands_set (update : DocumentUpdate) :
    BsonDocument.operands "$set" update.document =
      update.assigned.map fun (field, value) => (innerPath field, value) := rfl

theorem operands_unset (update : DocumentUpdate) :
    BsonDocument.operands "$unset" update.document =
      update.removed.map fun field => (innerPath field, .text "") := by
  obtain ⟨assigned, removed⟩ := update
  cases removed <;> rfl

theorem operands_set_ne_nil (h : patch.update now = .ok update) :
    BsonDocument.operands "$set" update.document ≠ [] := by
  have stamped := get?_assigned h updatedAt
  rw [operands_set]
  intro none
  rw [List.map_eq_nil_iff.1 none, if_pos rfl] at stamped
  exact nomatch stamped

/-- A path that is set and one that is removed lead to different members. -/
theorem paths_apart (h : patch.update now = .ok update)
    (undotted : ∀ name ∈ patch.names, '.' ∉ name.toList) {set unset : String}
    (assigned : set ∈ Members.names (BsonDocument.operands "$set" update.document))
    (removed : unset ∈ Members.names (BsonDocument.operands "$unset" update.document)) :
    ¬ pathNames set <+: pathNames unset ∧ ¬ pathNames unset <+: pathNames set := by
  have steps (name : String)
      (mem : name ∈ Members.names update.assigned ∨ name ∈ update.removed) :
      pathNames (innerPath name) = ["fields", name] := by
    refine pathNames_innerPath ?_
    rcases mem_names_patch h mem with rfl | named
    · decide
    · exact undotted name named
  rw [operands_set] at assigned
  rw [operands_unset] at removed
  obtain ⟨_, operand, rfl⟩ := List.mem_map.1 assigned
  obtain ⟨⟨first, value⟩, set, rfl⟩ := List.mem_map.1 operand
  obtain ⟨_, operand', rfl⟩ := List.mem_map.1 removed
  obtain ⟨second, unset, rfl⟩ := List.mem_map.1 operand'
  have named : first ∈ Members.names update.assigned := List.mem_map_of_mem set
  have other : first ≠ second := by
    rintro rfl
    exact notMem_removed h named unset
  rw [steps first (.inl named), steps second (.inr unset)]
  simp [other, other.symm]

/-- A path of a field leads to its member of the document of fields. -/
theorem changeAt?_innerPath (change : String → BsonDocument → BsonDocument)
    (found : Members.get? "fields" document = some (.document fields))
    (step : isPathStep name = true) (undotted : '.' ∉ name.toList) :
    BsonDocument.changeAt? change (pathNames (innerPath name)) document =
      some (Members.put "fields" (.document (change name fields)) document) := by
  rw [pathNames_innerPath undotted, BsonDocument.changeAt?, found]
  simp only [BsonDocument.changeAt?, step, if_true, Option.map_some]
  simp

/-- Changes along paths of fields are changes of the document of fields one after the other. -/
theorem foldlM_changeAt? {α : Type} (field : α → String)
    (change : α → String → BsonDocument → BsonDocument) (operands : List α)
    (found : Members.get? "fields" document = some (.document fields))
    (reachable : ∀ operand ∈ operands,
      isPathStep (field operand) = true ∧ '.' ∉ (field operand).toList) :
    operands.foldlM (fun rest operand =>
        BsonDocument.changeAt? (change operand) (pathNames (innerPath (field operand))) rest)
      document =
    some (Members.put "fields"
      (.document (operands.foldl (fun rest operand => change operand (field operand) rest) fields))
      document) := by
  induction operands generalizing document fields with
  | nil => exact congrArg some (Members.put_of_get? found).symm
  | cons operand rest ih =>
    have first := reachable operand List.mem_cons_self
    rw [List.foldlM_cons, changeAt?_innerPath _ found first.1 first.2]
    show List.foldlM _ _ rest = _
    rw [ih (Members.get?_put_self _ _ _) fun later mem =>
      reachable later (List.mem_cons_of_mem _ mem), Members.put_put]
    rfl

/-- The written update changes the document of fields, and nothing else. -/
theorem updated?_document (h : patch.update now = .ok update)
    (found : Members.get? "fields" document = some (.document fields))
    (reachable : ∀ name ∈ patch.names, isPathStep name = true ∧ '.' ∉ name.toList) :
    BsonDocument.updated? update.document document =
      some (Members.put "fields" (.document (update.apply fields)) document) := by
  have reach (name : String) (mem : name ∈ Members.names update.assigned ∨ name ∈ update.removed) :
      isPathStep name = true ∧ '.' ∉ name.toList := by
    rcases mem_names_patch h mem with rfl | named
    · decide
    · exact reachable name named
  have set := foldlM_changeAt? Prod.fst (fun m name => Members.put name m.2) update.assigned found
    fun m mem => reach m.1 (.inl (List.mem_map_of_mem mem))
  rw [← Members.putAll_eq_foldl] at set
  have unset := foldlM_changeAt? id (fun _ => Members.erase) update.removed
    (Members.get?_put_self "fields" (.document (Members.putAll fields update.assigned)) document)
    fun name mem => reach name (.inr mem)
  rw [Members.put_put] at unset
  simp only [BsonDocument.updated?, operands_set, operands_unset, List.foldlM_map]
  exact (congrArg (Option.bind · _) set).trans unset

end DocumentUpdate

/-! ### Records without marked names -/

/-- Whether no name of a field is marked, and none at any depth of the JSON form of its value. -/
def Fields.isUnmarked (fields : Fields) : Bool :=
  Json.areUnmarkedMembers (Members.mapValues FieldValue.toJson fields.entries)

theorem Fields.isUnmarked_get? {fields : Fields} {name : String} {value : FieldValue}
    (unmarked : fields.isUnmarked = true) (found : fields.get? name = some value) :
    isMarkedName name = false ∧ value.toJson.isUnmarked = true := by
  have mem : (name, value) ∈ fields.entries := (Members.get?_eq_some_iff fields.nodup).1 found
  exact Json.areUnmarkedMembers_iff.1 unmarked (name, value.toJson)
    (List.mem_map_of_mem (f := fun m => (m.1, m.2.toJson)) mem)

theorem Fields.isMarkedName_of_mem {fields : Fields} {name : String}
    (unmarked : fields.isUnmarked = true) (mem : name ∈ fields.names) :
    isMarkedName name = false := by
  cases found : fields.get? name with
  | some value => exact (isUnmarked_get? unmarked found).1
  | none => exact absurd mem (Members.get?_eq_none_iff.1 found)

namespace Record

variable {record : Record} {tenant : Tenant} {document : BsonDocument}

theorem areUnmarkedMembers_payload (unmarked : record.fields.isUnmarked = true) :
    Json.areUnmarkedMembers record.payload = true := by
  rw [Json.areUnmarkedMembers_iff]
  rintro ⟨name, v⟩ mem
  have found := (Members.get?_eq_some_iff record.names_payload_nodup).2 mem
  rw [get?_payload] at found
  split at found
  · cases found
  · obtain ⟨value, held, rfl⟩ := Option.map_eq_some_iff.1 found
    exact Fields.isUnmarked_get? unmarked held

/-- A record without marked names is written so that each field has its JSON form as its relaxed
form. -/
theorem exists_fields_of_document (unmarked : record.fields.isUnmarked = true)
    (written : record.document tenant = .ok document) :
    ∃ fields, (Members.names fields).Nodup ∧
      document = [
        ("_id", .text (documentKey tenant record.id)), ("tenant_id", .text tenant.name),
        ("id", .text record.id), ("fields", .document fields)] ∧
      ∀ name, (Members.get? name fields).map Bson.relaxed =
        if name = "id" then none else (record.get? name).map FieldValue.toJson := by
  obtain ⟨fields, members, -, stored⟩ := document_eq_ok_iff.1 written
  have distinct : (Members.names fields).Nodup := by
    rw [Bson.names_documentOfMembers members]
    exact record.names_payload_nodup
  refine ⟨fields, distinct, stored, fun name => ?_⟩
  rw [← Members.get?_mapValues, ← Bson.relaxedMembers_eq,
    Bson.relaxedMembers_of_documentOfMembers? _ (areUnmarkedMembers_payload unmarked) members,
    get?_payload]

end Record

/-! ### The two updates -/

variable {record : Record} {patch : Patch} {now : Timestamp} {update : DocumentUpdate}

/-- On each field the update of a document comes to a partial update and a stamp, if both start with
the same values. -/
theorem DocumentUpdate.relaxed_apply {fields : BsonDocument}
    (h : patch.update now.text = .ok update) (unmarked : patch.isUnmarked = true)
    (created : (record.get? createdAt).isSome = true) (distinct : (Members.names fields).Nodup)
    (same : ∀ name, (Members.get? name fields).map Bson.relaxed =
      if name = "id" then none else (record.get? name).map FieldValue.toJson) (name : String) :
    (Members.get? name (update.apply fields)).map Bson.relaxed =
      if name = "id" then none
      else (((record.merge patch).touch now).get? name).map FieldValue.toJson := by
  rw [get?_apply h distinct]
  by_cases updated : name = updatedAt
  · rw [if_pos updated, if_neg (by rw [updated]; decide), Record.get?_touch, if_pos updated]
    rfl
  by_cases own : name = "id"
  · rw [if_neg updated, if_pos own, if_pos own, same, if_pos own]
  rw [if_neg updated, if_neg own, if_neg own, Record.get?_touch_merge created patch now own updated]
  cases found : patch.get? name with
  | none => exact (same name).trans (if_neg own)
  | some value =>
    cases null : value.isNull with
    | true =>
      by_cases stamp : name = createdAt
      · simp only [FieldUpdate.assigned?, null, stamp, if_true]
        rfl
      · simp [FieldUpdate.assigned?, null, stamp]
    | false =>
      have mem : (name, value) ∈ patch.entries := (Members.get?_eq_some_iff patch.nodup).1 found
      obtain ⟨updates, effects, -⟩ := exists_of_update h
      obtain ⟨stored, read⟩ := FieldUpdate.exists_stored effects mem
        (fun reserved => reserved.elim own updated) null
      have kept : stored.relaxed = value.toJson :=
        Bson.relaxed_of_ofJson? _ (Fields.isUnmarked_get? unmarked found).2 read
      simp [FieldUpdate.assigned?, null, read, kept]

/-- **An update of a document is an update of its record.** For a record with a time of creation and
a patch of fields that are steps of a path, both without marked names: the written update sets
something, the paths that it sets and those that it removes are apart, and what is read back from
the updated document is what is read back from the JSON object of the record after the partial
update and the stamp. -/
theorem Record.ofDocument_updated {tenant : Tenant} {document : BsonDocument}
    (unnamed : record.get? "id" = none) (created : (record.get? createdAt).isSome = true)
    (named : ∀ name ∈ patch.names, name ≠ "" ∧ '.' ∉ name.toList)
    (unmarked : record.fields.isUnmarked = true) (unmarked' : patch.isUnmarked = true)
    (updates : patch.update now.text = .ok update)
    (written : record.document tenant = .ok document) :
    BsonDocument.operands "$set" update.document ≠ [] ∧
    (∀ set ∈ Members.names (BsonDocument.operands "$set" update.document),
      ∀ unset ∈ Members.names (BsonDocument.operands "$unset" update.document),
        ¬ pathNames set <+: pathNames unset ∧ ¬ pathNames unset <+: pathNames set) ∧
    ∃ changed back expected,
      BsonDocument.updated? update.document document = some changed ∧
      Record.ofDocument changed = .ok back ∧
      Record.ofJson? ((record.merge patch).touch now).toJson = some expected ∧
      back.id = record.id ∧ expected.id = record.id ∧
      ∀ name, back.get? name = expected.get? name := by
  have reachable : ∀ name ∈ patch.names, isPathStep name = true ∧ '.' ∉ name.toList := by
    intro name mem
    have plain := Fields.isMarkedName_of_mem unmarked' mem
    refine ⟨?_, (named name mem).2⟩
    simp [isPathStep, plain, (named name mem).1]
  obtain ⟨fields, distinct, rfl, same⟩ := Record.exists_fields_of_document unmarked written
  have unnamed' : ((record.merge patch).touch now).get? "id" = none := by
    rw [Record.get?_touch, if_neg (by decide), if_neg (by decide), Record.get?_id_merge, unnamed]
  have expected : Record.ofJson? ((record.merge patch).touch now).toJson =
      some (((record.merge patch).touch now).reread FieldValue.toJson FieldValue.ofJson) := by
    rw [Record.toJson_eq unnamed', Record.ofJson?_written unnamed']
  refine ⟨DocumentUpdate.operands_set_ne_nil updates, fun set assigned unset removed =>
    DocumentUpdate.paths_apart updates (fun name mem => (named name mem).2) assigned removed, _,
    Record.ofFields record.id (Bson.relaxedMembers (update.apply fields)), _,
    DocumentUpdate.updated?_document updates rfl reachable, rfl, expected, rfl, rfl,
    fun name => ?_⟩
  have read : (Members.names (Bson.relaxedMembers (update.apply fields))).Nodup := by
    rw [Bson.relaxedMembers_eq]
    exact Members.names_mapValues_nodup (DocumentUpdate.names_apply_nodup distinct) _
  rw [Record.get?_ofFields _ read, Record.get?_reread, Bson.relaxedMembers_eq,
    Members.get?_mapValues, DocumentUpdate.relaxed_apply updates unmarked' created distinct same]
  by_cases own : name = "id"
  · rw [if_pos own, own, unnamed']
    rfl
  · rw [if_neg own, if_neg own, Option.map_map]
    rfl

/-- A record that has a time of creation, among fields of other kinds. -/
def draft : Record := ⟨"a",
  ⟨[("title", .text "Draft"), ("rank", .integer 3), (createdAt, .text "yesterday"),
    ("notes", .json (.object [("open", .array [.null, .bool true])])), ("reviewer", .null)],
    by decide⟩⟩

/-- A patch with an entry of each effect: fields that are set, one of them to no JSON number, fields
that are removed, and the identifier and both stamps. -/
def revision : Patch :=
  ⟨[("id", .text "b"), ("title", .text "Final"), ("score", .float (.nan false)), ("rank", .null),
    (createdAt, .null), (updatedAt, .null), ("editors", .json (.array [.text "c"]))], by decide⟩

theorem revised_draft_is_read_back :
    ∃ update document, revision.update (Timestamp.ofSeconds 1700000000).text = .ok update ∧
      draft.document ⟨"t"⟩ = .ok document ∧
      ∃ changed back expected,
        BsonDocument.updated? update.document document = some changed ∧
        Record.ofDocument changed = .ok back ∧
        Record.ofJson? ((draft.merge revision).touch (.ofSeconds 1700000000)).toJson =
          some expected ∧
        back.id = draft.id ∧ expected.id = draft.id ∧
        ∀ name, back.get? name = expected.get? name := by
  obtain ⟨update, updates⟩ :
      ∃ update, revision.update (Timestamp.ofSeconds 1700000000).text = .ok update := ⟨_, rfl⟩
  obtain ⟨document, written⟩ : ∃ document, draft.document ⟨"t"⟩ = .ok document := ⟨_, rfl⟩
  exact ⟨update, document, updates, written,
    (Record.ofDocument_updated rfl rfl (by decide) (by decide) (by decide) updates written).2.2⟩

end RecordStore
