import RecordStore.Transaction.Work

/-!
# Typed repositories

A repository gives typed access to the records of a table. Entities cross the boundary as flat JSON
objects, with the identifier as their member `id`.

* `Codec` — the JSON form of a type of entities;
* `Repository.create`, `Repository.get`, … — the calls, whose answers are entities.
-/

namespace RecordStore

/-- How entities are written to and read from JSON. -/
structure Codec (α : Type) where
  write : α → Except String Json
  read : Json → Except String α

namespace Codec

variable {α : Type}

/-- The record of an entity, if it has a JSON form and that is an object. -/
def toRecord (codec : Codec α) (entity : α) : Except StoreError Record :=
  match codec.write entity with
  | .error message => .error (.serialization message)
  | .ok value =>
    match Record.ofJson? value with
    | some record => .ok record
    | none => .error (.serialization "entity must serialize to a JSON object")

/-- The entity of a record. -/
def ofRecord (codec : Codec α) (record : Record) : Except StoreError α :=
  match codec.read record.toJson with
  | .ok entity => .ok entity
  | .error message => .error (.serialization message)

end Codec

/-- The partial update of a JSON object. -/
def Patch.ofJson : Json → Except StoreError Patch
  | .object members => .ok (.ofList (Members.mapValues FieldValue.ofJson members))
  | _ => .error (.serialization "patch must be a JSON object")

/-- Access to the records of a table as entities of a type. -/
structure Repository (α : Type) where
  codec : Codec α
  table : String

namespace Repository

variable {α σ : Type}

/-- Store a new entity. -/
def create (repository : Repository α) (context : Context) (entity : α)
    (next : Except StoreError α → Work σ) : Work σ :=
  match repository.codec.toRecord entity with
  | .error e => next (.error e)
  | .ok record =>
    .call context (.create repository.table record) fun reply =>
      next (Except.bind reply repository.codec.ofRecord)

/-- The entity of an identifier. -/
def get (repository : Repository α) (context : Context) (id : String)
    (next : Except StoreError α → Work σ) : Work σ :=
  .call context (.read repository.table id) fun reply =>
    next (Except.bind reply repository.codec.ofRecord)

/-- Apply a partial update given as JSON. -/
def update (repository : Repository α) (context : Context) (id : String) (patch : Json)
    (next : Except StoreError α → Work σ) : Work σ :=
  match Patch.ofJson patch with
  | .error e => next (.error e)
  | .ok patch =>
    .call context (.update repository.table id patch) fun reply =>
      next (Except.bind reply repository.codec.ofRecord)

/-- Remove the entity of an identifier. -/
def delete (repository : Repository α) (context : Context) (id : String)
    (next : Except StoreError Unit → Work σ) : Work σ :=
  .call context (.delete repository.table id) next

/-- List entities. Where sorting their records has no result, this ends with a panic. -/
def list (repository : Repository α) (context : Context) (params : ListParams)
    (next : Except StoreError (ListResult α) → Work σ) : Work σ :=
  .call context (.list repository.table params) fun
    | .error e => next (.error e)
    | .ok (some result) => next (ListResult.mapM repository.codec.ofRecord result)
    | .ok none => .panic SortSpec.disorder

end Repository

end RecordStore
