import RecordStore.Store.Query
import RecordStore.Transaction.Basic

/-!
# Store operations

The calls that can be made on the records of a table. Each has answers of a type of its own, and is
carried out in a context: on the tables of its tenant, and in its transaction.

* `Operation` — the calls, and `Operation.Reply` the types of their answers;
* `Operation.run` — carrying one out.
-/

namespace RecordStore

/-- A call on the records of a table. -/
inductive Operation where
  | create (table : String) (record : Record)
  | read (table id : String)
  | update (table id : String) (patch : Patch)
  | delete (table id : String)
  | list (table : String) (params : ListParams)
  | query (table statement : String)
  | snapshot (table : String)
  | count (table : String)

namespace Operation

/-- The type of the answers of a call. No answer is promised to a list where sorting has no result.
It may end with a panic, which whoever has asked for it cannot but join. -/
def Reply : Operation → Type
  | create .. => Record
  | read .. => Record
  | update .. => Record
  | delete .. => Unit
  | list .. => Option (ListResult Record)
  | query .. => List Json
  | snapshot _ => List Record
  | count _ => Nat

/-- Carry out a call at a moment. Only writes look at the transaction of the context. -/
def runAt (moment : Moment) (context : Context) (database : Database) :
    (operation : Operation) → Except StoreError operation.Reply × Database
  | create table record =>
    database.write context fun store => store.create ⟨context.tenant, table⟩ moment record
  | read table id => (database.store.read ⟨context.tenant, table⟩ id, database)
  | update table id patch =>
    database.write context fun store => store.update ⟨context.tenant, table⟩ moment id patch
  | delete table id =>
    database.write context fun store => store.delete ⟨context.tenant, table⟩ id
  | list table params =>
    (database.store.list ⟨context.tenant, table⟩ moment.arrangement params, database)
  | query table statement =>
    (database.store.query ⟨context.tenant, table⟩ moment.arrangement statement, database)
  | snapshot table =>
    (.ok (database.store.snapshot ⟨context.tenant, table⟩ moment.arrangement), database)
  | count table => (.ok (database.store.table ⟨context.tenant, table⟩).length, database)

/-- Carry out a call at the next moment. -/
def run (surroundings : Surroundings) (context : Context) (operation : Operation)
    (database : Database) : Except StoreError operation.Reply × Database :=
  operation.runAt (surroundings.moment database.moments) context
    { database with moments := database.moments + 1 }

end Operation

end RecordStore
