import RecordStore.Field

/-!
# Records

A record is an identifier with named fields, in the order in which the fields were first set. The
identifier is no field: the record operations never create a field named `id`.

* `Fields` — ordered field maps, with `Fields.get?`, `Fields.put` and `Fields.erase`;
* `Record.merge` — a partial update, in which `null` removes a field;
* `Record.touch` — the stamps of creation and of the last write;
* `Record.ofJson?`, `Record.toJson` — the flat JSON object of a record, and `Record.payload` — its
  members without the identifier;
* `Record.read?`, `Record.serialize` — its form in serialized results.
-/

namespace RecordStore

/-- The field of the time of creation. -/
def createdAt : String := "created_at"

/-- The field of the time of the last write. -/
def updatedAt : String := "updated_at"

/-- An ordered map from field names to values. -/
structure Fields where
  entries : List (String × FieldValue)
  nodup : (Members.names entries).Nodup

namespace Fields

/-- No fields. -/
def empty : Fields := ⟨[], by simp⟩

instance : Inhabited Fields := ⟨empty⟩

/-- The value of a field. -/
def get? (fields : Fields) (name : String) : Option FieldValue := Members.get? name fields.entries

/-- Whether there is a field of this name. -/
def contains (fields : Fields) (name : String) : Bool := (fields.get? name).isSome

/-- Set a field, in place if it is there already. -/
def put (fields : Fields) (name : String) (value : FieldValue) : Fields :=
  ⟨Members.put name value fields.entries, Members.nodup_put fields.nodup⟩

/-- Remove a field; the others keep their order. -/
def erase (fields : Fields) (name : String) : Fields :=
  ⟨Members.erase name fields.entries, Members.nodup_erase fields.nodup⟩

/-- Set the fields of a list one after the other. -/
def ofList (entries : List (String × FieldValue)) : Fields :=
  ⟨Members.distinct entries, Members.nodup_distinct entries⟩

/-- The field names in order. -/
def names (fields : Fields) : List String := Members.names fields.entries

/-- Equality of fields: the same names with equal values; the order does not matter. -/
def same (a b : Fields) : Bool :=
  a.entries.length == b.entries.length && a.entries.all fun (name, value) =>
    match b.get? name with
    | some other => value.same other
    | none => false

end Fields

/-- A partial update: the fields to set, and those to remove with the value `null`. -/
abbrev Patch := Fields

/-- The identifier of a tenant. -/
structure Tenant where
  name : String
  deriving DecidableEq

/-- An identified record. -/
structure Record where
  id : String
  fields : Fields

namespace Record

instance : Inhabited Record := ⟨⟨"", Fields.empty⟩⟩

/-- A record without fields. -/
def new (id : String) : Record := ⟨id, Fields.empty⟩

/-- Set a field; there is no field named `id`. -/
def set (record : Record) (name : String) (value : FieldValue) : Record :=
  if name = "id" then record else { record with fields := record.fields.put name value }

/-- The value of a field. -/
def get? (record : Record) (name : String) : Option FieldValue := record.fields.get? name

/-- Remove a field. -/
def erase (record : Record) (name : String) : Record :=
  { record with fields := record.fields.erase name }

/-- The value under a name, the identifier under the name `id`. -/
def fieldValue? (record : Record) (name : String) : Option FieldValue :=
  if name = "id" then some (.text record.id) else record.get? name

/-- Apply one entry of a partial update. -/
def mergeEntry (fields : Fields) (entry : String × FieldValue) : Fields :=
  if entry.1 = "id" then fields
  else if entry.2.isNull then fields.erase entry.1
  else fields.put entry.1 entry.2

/-- Apply a partial update: `null` removes a field, any other value sets it, and the identifier
stays as it is. -/
def merge (record : Record) (patch : Patch) : Record :=
  { record with fields := patch.entries.foldl mergeEntry record.fields }

/-- Stamp a write: the time of creation unless there is one already, and the time of the write. -/
def touch (record : Record) (now : Timestamp) : Record :=
  let fields :=
    if record.fields.contains createdAt then record.fields
    else record.fields.put createdAt (.instant now)
  { record with fields := fields.put updatedAt (.instant now) }

/-- The identifier in the member `id`: a text as it is, `null` like a missing one, and any other
value by its JSON text. -/
def idOfJson : Option Json → String
  | none => ""
  | some .null => ""
  | some (.text s) => s
  | some v => v.print

/-- The record of a flat JSON object; the identifier may be missing. -/
def ofJson? : Json → Option Record
  | .object members =>
    some
      { id := idOfJson (Members.get? "id" members)
        fields := .ofList
          (Members.mapValues FieldValue.ofJson (members.filter fun m => m.1 != "id")) }
  | _ => none

/-- The members of the flat JSON object of a record, the identifier first. -/
def members (record : Record) : List (String × Json) :=
  Members.putAll [("id", .text record.id)]
    (Members.mapValues FieldValue.toJson record.fields.entries)

/-- The flat JSON object of a record. -/
def toJson (record : Record) : Json := .object record.members

/-- The members without the identifier, for a backend that keeps the identifier apart. The last
member takes the place of the identifier. -/
def payload (record : Record) : List (String × Json) := Members.vacate "id" record.members

/-- The flat JSON object of a record in a serialized result. -/
def serialize (record : Record) : Json :=
  .object (("id", .text record.id) ::
    Members.mapValues FieldValue.serialize record.fields.entries)

/-- The record of a serialized flat object. The object must have exactly one member `id`, a text;
of any other repeated name the last value counts. -/
def read? : Json → Option Record
  | .object members =>
    match members.filter fun m => m.1 == "id" with
    | [(_, .text id)] =>
      some
        { id := id
          fields := .ofList (Members.mapValues (fun v => FieldValue.read v.distinct)
            (members.filter fun m => m.1 != "id")) }
    | _ => none
  | _ => none

/-- Equality of records; the order of the fields does not matter. -/
def same (a b : Record) : Bool := a.id == b.id && a.fields.same b.fields

end Record

end RecordStore
