import RecordStore.Bson.Embedding
import RecordStore.Bson.Extended
import RecordStore.Error

/-!
# Records as documents

A document database keeps the records of a table in a collection. A document has the key, the
tenant and the identifier of its record, and the other fields in a document of their own.

* `documentKey`, `fieldPath` — the key of a document, and where a field is in it;
* `Record.document`, `Record.ofDocument` — writing and reading;
* `DocumentFault` — what can be wrong.
-/

namespace RecordStore

/-- What can be wrong between records and documents. -/
inductive DocumentFault where
  | unsuitableRecord
  | unsuitableField
  | noDocument
  | noTextId
  deriving DecidableEq

/-- The wording of a fault. -/
def DocumentFault.message : DocumentFault → String
  | .unsuitableRecord => "Failed to convert record to BSON"
  | .unsuitableField => "Failed to convert field to BSON"
  | .noDocument => "record fields did not convert to a BSON document"
  | .noTextId => "document has no string id"

/-- The error of a fault. -/
def DocumentFault.error (fault : DocumentFault) : StoreError := .serialization fault.message

/-- The key of the document of a record. -/
def documentKey (tenant : Tenant) (id : String) : String := tenant.name ++ ":" ++ id

/-- The path of a field inside the document of fields. -/
def innerPath (field : String) : String := "fields." ++ field

/-- The path of a field, or of the identifier, in the document of a record. -/
def fieldPath (field : String) : String := if field = "id" then "id" else innerPath field

namespace Record

/-- The document of the fields of a record. -/
def fieldDocument (record : Record) : Except StoreError BsonDocument :=
  match Bson.ofJson? (.object record.payload) with
  | none => .error DocumentFault.unsuitableRecord.error
  | some (.document fields) => .ok fields
  | some _ => .error DocumentFault.noDocument.error

/-- The document of a record. -/
def document (record : Record) (tenant : Tenant) : Except StoreError BsonDocument := do
  let fields ← record.fieldDocument
  .ok [
    ("_id", .text (documentKey tenant record.id)), ("tenant_id", .text tenant.name),
    ("id", .text record.id), ("fields", .document fields)]

/-- The record of a JSON object of fields under another identifier. -/
def ofFields (id : String) (fields : List (String × Json)) : Record :=
  { id
    fields := .ofList (Members.mapValues FieldValue.ofJson (fields.filter fun m => m.1 != "id")) }

/-- The record of a document. Its fields are read from their relaxed form; it has none where the
document of fields is missing. -/
def ofDocument (document : BsonDocument) : Except StoreError Record :=
  match Members.get? "id" document, Members.get? "fields" document with
  | some (.text id), some (.document fields) => .ok (ofFields id (Bson.relaxedMembers fields))
  | some (.text id), _ => .ok (ofFields id [])
  | _, _ => .error DocumentFault.noTextId.error

end Record

end RecordStore
