import RecordStore.Document.Basic

/-!
# Updates of documents

A partial update of a record as an update of its document, which sets some fields and removes
others. It has the effect of merging the patch into the record and stamping the write: the
identifier stays, the time of the write is set, and the time of creation is set anew if the patch
removes it.

* `Patch.update` — the update of a patch;
* `DocumentUpdate.document` — its written form;
* `DocumentUpdate.apply` — its effect on the document of fields.
-/

namespace RecordStore

/-- An update: the fields to set, and the fields to remove. -/
structure DocumentUpdate where
  assigned : BsonDocument
  removed : List String

/-- The effect of one entry of a patch at the time `now`: to set a field, to remove one, or none. -/
inductive FieldUpdate where
  | assign (field : String) (value : Bson)
  | remove (field : String)
  | keep

/-- The effect of an entry of a patch. -/
def FieldUpdate.ofEntry (now : String) (entry : String × FieldValue) :
    Except StoreError FieldUpdate :=
  let (field, value) := entry
  if field = "id" ∨ field = updatedAt then .ok .keep
  else if value.isNull then
    .ok (if field = createdAt then .assign field (.text now) else .remove field)
  else
    match Bson.ofJson? value.toJson with
    | some stored => .ok (.assign field stored)
    | none => .error DocumentFault.unsuitableField.error

/-- The fields that are set, in order. -/
def FieldUpdate.assignments (updates : List FieldUpdate) : BsonDocument :=
  updates.filterMap fun
    | .assign field value => some (field, value)
    | _ => none

/-- The fields that are removed, in order. -/
def FieldUpdate.removals (updates : List FieldUpdate) : List String :=
  updates.filterMap fun
    | .remove field => some field
    | _ => none

/-- The update of a patch at the time `now`. -/
def Patch.update (patch : Patch) (now : String) : Except StoreError DocumentUpdate := do
  let updates ← patch.entries.mapM (FieldUpdate.ofEntry now)
  .ok ⟨FieldUpdate.assignments updates ++ [(updatedAt, .text now)], FieldUpdate.removals updates⟩

namespace DocumentUpdate

/-- The written form of an update. -/
def document (update : DocumentUpdate) : BsonDocument :=
  ("$set", .document (update.assigned.map fun (field, value) => (innerPath field, value))) ::
    match update.removed with
    | [] => []
    | removed => [("$unset", .document (removed.map fun field => (innerPath field, .text "")))]

/-- The effect of an update on the document of fields. -/
def apply (update : DocumentUpdate) (fields : BsonDocument) : BsonDocument :=
  update.removed.foldl (fun rest field => Members.erase field rest)
    (Members.putAll fields update.assigned)

end DocumentUpdate

end RecordStore
