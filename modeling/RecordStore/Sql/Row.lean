import RecordStore.Error
import RecordStore.Record

/-!
# Rows

A relational backend keeps all records in one table. A row has columns for the tenant, the table
and the identifier, and one for the other fields, which is a JSON object.

* `Record.row` and `Record.ofRow` — writing and reading;
* `Record.instant?` — the timestamp in a field, which may have become a text in a row.
-/

namespace RecordStore

/-- A row. -/
structure StoredRow where
  tenant : Tenant
  table : String
  id : String
  data : Json

/-- The row of a record. -/
def Record.row (tenant : Tenant) (table : String) (record : Record) : StoredRow :=
  ⟨tenant, table, record.id, .object record.payload⟩

/-- The record of the columns `id` and `data`. The column has the say over the identifier. -/
def Record.ofRow (id : String) (data : Json) : Except StoreError Record :=
  match Record.ofJson? data with
  | some record => .ok { record with id }
  | none => .error (.serialization s!"record '{id}' data is not a JSON object")

/-- The timestamp in a field: one that is kept as such, or as RFC 3339 text. -/
def Record.instant? (record : Record) (field : String) : Option Timestamp :=
  match record.get? field with
  | some (.instant t) => some t
  | some (.text s) => Timestamp.ofText? s
  | _ => none

end RecordStore
