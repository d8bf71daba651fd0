import RecordStore.Json.Parser
import RecordStore.List.Engine
import RecordStore.Store.Basic

/-!
# Reading from a store

Lists of the records of a table, and the native query language of the store: a statement is a JSON
object, and the rows that have all its members are the answer. Both begin with a snapshot of the
table, whose order is not known beforehand.

* `Store.snapshot` — the records of a table as they come;
* `Store.list` — the list pipeline over a table;
* `Store.query` — the rows that a statement selects.
-/

namespace RecordStore

/-- Whether a row has a member with an equal value. -/
def Json.hasMember (row : Json) (member : String × Json) : Bool :=
  match row.get? member.1 with
  | some value => value.same member.2
  | none => false

namespace Store

/-- The records of a table in the order in which they are handed over. -/
def snapshot (store : Store) (place : Place) (arrangement : Arrangement) : List Record :=
  arrangement.apply (store.table place)

/-- The list that valid parameters ask for. There is no answer where sorting the records has no
result. -/
def list (store : Store) (place : Place) (arrangement : Arrangement) (params : ListParams) :
    Except StoreError (Option (ListResult Record)) := do
  params.validate
  .ok (ListResult.execute? (store.snapshot place arrangement) params)

/-- The rows of a table that have all members of a statement, in ascending order of their
identifiers. -/
def query (store : Store) (place : Place) (arrangement : Arrangement) (statement : String) :
    Except StoreError (List Json) :=
  match Json.parse? statement with
  | some (.object members) =>
    let ordered := (store.snapshot place arrangement).mergeSort fun a b => Text.le a.id b.id
    .ok ((ordered.map Record.toJson).filter fun row => members.all row.hasMember)
  | _ => .error QueryFault.statementNotObject.error

end Store

end RecordStore
