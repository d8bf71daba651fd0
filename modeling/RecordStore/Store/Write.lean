import RecordStore.Store.Journal
import RecordStore.Error
import RecordStore.Text.Basic

/-!
# Writing to a store

The three writes on the records of a table. A write either fails and changes nothing, or gives its
answer, the store after it, and the entry that undoes it.

* `Store.create`, `Store.update`, `Store.delete` — the writes;
* `Moment` — what the surroundings contribute to a call: the time, a fresh identifier, and the order
  in which records are handed over.
-/

namespace RecordStore

/-- The time of a call, an identifier for the record that it may create, and the order in which the
records of a table come that it may read. -/
structure Moment where
  now : Timestamp
  freshId : String
  arrangement : Arrangement

/-- The answer of a write, the store after it, and how to undo it. -/
structure Change (α : Type) where
  answer : α
  store : Store
  undo : UndoEntry

/-- The record that is stored when `record` is created: a blank identifier is replaced by a fresh
one, and the record is stamped. -/
def Record.prepared (record : Record) (moment : Moment) : Record :=
  let named :=
    if Text.isBlankText record.id then { record with id := moment.freshId } else record
  named.touch moment.now

namespace Store

/-- Store a new record, whose identifier must not be taken. -/
def create (store : Store) (place : Place) (moment : Moment) (record : Record) :
    Except StoreError (Change Record) :=
  let stored := record.prepared moment
  let key : Key := ⟨place, stored.id⟩
  if store.contains key then .error (.alreadyExists place.table stored.id)
  else .ok ⟨stored, store.put key stored, ⟨key, none⟩⟩

/-- The record of an identifier. -/
def read (store : Store) (place : Place) (id : String) : Except StoreError Record :=
  match store.get? ⟨place, id⟩ with
  | some record => .ok record
  | none => .error (.notFound place.table id)

/-- Apply a partial update to the record of an identifier and stamp it. -/
def update (store : Store) (place : Place) (moment : Moment) (id : String) (patch : Patch) :
    Except StoreError (Change Record) :=
  match store.get? ⟨place, id⟩ with
  | none => .error (.notFound place.table id)
  | some old =>
    let stored := (old.merge patch).touch moment.now
    .ok ⟨stored, store.put ⟨place, id⟩ stored, ⟨⟨place, id⟩, some old⟩⟩

/-- Remove the record of an identifier. -/
def delete (store : Store) (place : Place) (id : String) : Except StoreError (Change Unit) :=
  match store.get? ⟨place, id⟩ with
  | none => .error (.notFound place.table id)
  | some old => .ok ⟨(), store.erase ⟨place, id⟩, ⟨⟨place, id⟩, some old⟩⟩

end Store

end RecordStore
