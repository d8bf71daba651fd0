import RecordStore.Duration
import RecordStore.Store.Write

/-!
# Transactions

A transaction is known by a handle, which travels in the context of every call made in it. Its
state is kept in the database: which backend opened it, the journal of its writes if it was this
one, and whether it may still be committed.

* `Context` — who calls, in which transaction, and with which deadline;
* `Database` — the records, the transactions opened so far, and what was asked of the backend;
* `Database.write` — a write in a context.
-/

namespace RecordStore

/-- The name of a transaction inside a database: its place in the order of opening. -/
structure Handle where
  number : Nat
  deriving DecidableEq

/-- Who is calling, inside which transaction, and for how long they will wait. -/
structure Context where
  tenant : Tenant
  transaction : Option Handle
  timeout : Option Duration
  deriving DecidableEq

namespace Context

/-- A caller outside of every transaction who will wait for ever. -/
def new (tenant : Tenant) : Context := ⟨tenant, none, none⟩

/-- The same caller inside a transaction. -/
def within (context : Context) (handle : Handle) : Context :=
  { context with transaction := some handle }

end Context

/-- The name of the backend that keeps its records in the store. -/
def memoryBackend : String := "memory"

/-- The state of a transaction. One that another backend opened has no journal here. -/
structure Transaction where
  id : String
  backend : String
  journal : Option Journal
  rollbackOnly : Bool

/-- How often the backend was asked to open, to commit and to roll back a transaction. -/
structure Calls where
  opened : Nat
  committed : Nat
  rolledBack : Nat
  deriving DecidableEq

/-- What the surroundings supply: the moment of each call, and an identifier for each transaction,
both by their number. -/
structure Surroundings where
  moment : Nat → Moment
  transactionId : Nat → String

/-- The state of a database. -/
structure Database where
  store : Store
  /-- The transactions in the order of their opening. -/
  transactions : List Transaction
  calls : Calls
  /-- The number of moments that have been used. -/
  moments : Nat

namespace Database

/-- The database without records. -/
def empty : Database := ⟨Store.empty, [], ⟨0, 0, 0⟩, 0⟩

/-- The state of the transaction of a handle. -/
def transaction? (database : Database) (handle : Handle) : Option Transaction :=
  database.transactions[handle.number]?

/-- Change the state of a transaction. -/
def modify (database : Database) (handle : Handle) (change : Transaction → Transaction) :
    Database :=
  { database with transactions := database.transactions.modify handle.number change }

/-- Add an opened transaction; its handle is the second component. -/
def adopt (database : Database) (surroundings : Surroundings) (backend : String)
    (journal : Option Journal) : Database × Handle :=
  let number := database.transactions.length
  let opened : Transaction := ⟨surroundings.transactionId number, backend, journal, false⟩
  ({ database with transactions := database.transactions ++ [opened] }, ⟨number⟩)

/-- Forbid that a transaction is committed. -/
def mark (database : Database) (handle : Handle) : Database :=
  database.modify handle fun t => { t with rollbackOnly := true }

/-- The error of a handle that another backend opened. -/
def foreignHandle (transaction : Transaction) : StoreError :=
  let id := transaction.id
  let backend := transaction.backend
  .transaction (.invalidHandle
    s!"transaction {id} was opened by '{backend}', not '{memoryBackend}'")

/-- Whether a handle is one of this backend: its transaction must have a journal here. -/
def checkHandle (database : Database) (handle : Handle) : Except StoreError Unit :=
  match database.transaction? handle with
  | none => .ok ()
  | some transaction =>
    if transaction.journal.isSome then .ok () else .error (foreignHandle transaction)

/-- Whether a context may write: its transaction, if it has one, must be one of this backend. -/
def checkWritable (database : Database) (context : Context) : Except StoreError Unit :=
  match context.transaction with
  | none => .ok ()
  | some handle => database.checkHandle handle

/-- Put an entry into the journal of the transaction of a context. -/
def record (database : Database) (context : Context) (entry : UndoEntry) : Database :=
  match context.transaction with
  | none => database
  | some handle =>
    database.modify handle fun t => { t with journal := t.journal.map (entry :: ·) }

/-- Carry out a write in a context: refused with a foreign handle, without effect if it fails, and
otherwise entered into the journal of the transaction. -/
def write {α : Type} (database : Database) (context : Context)
    (change : Store → Except StoreError (Change α)) : Except StoreError α × Database :=
  match database.checkWritable context with
  | .error e => (.error e, database)
  | .ok () =>
    match change database.store with
    | .error e => (.error e, database)
    | .ok c => (.ok c.answer, { database with store := c.store }.record context c.undo)

end Database

end RecordStore
