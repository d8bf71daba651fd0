import RecordStore.Transaction.Operation

/-!
# Opening and closing transactions

A manager puts work into a transaction. The outermost unit of work opens one and, when the work has
ended, commits it or rolls it back; a unit inside another one uses the transaction that is open
already, and if it fails forbids that it is committed. Without transactions a manager runs every
unit directly.

* `Outcome` — how work ends;
* `Manager.enter`, `Manager.leave` — what happens before and after the work of a unit.
-/

namespace RecordStore

/-- How work ends: it is done, it failed with an error, or it panicked. -/
inductive Outcome where
  | done
  | failed (error : StoreError)
  | panicked (message : String)

/-- The answers of a transaction backend that refuses to open, to commit or to roll back. -/
structure Backend where
  openFault : Option StoreError
  commitFault : Option StoreError
  rollbackFault : Option StoreError

/-- The backend that refuses nothing. -/
def Backend.reliable : Backend := ⟨none, none, none⟩

/-- The way in which units of work are run. -/
inductive Manager where
  | direct
  | transactional (backend : Backend)

/-- Whether units of work run without transactions. -/
def Manager.isDirect : Manager → Bool
  | .direct => true
  | .transactional _ => false

namespace Database

/-- Open a transaction. -/
def openTransaction (database : Database) (surroundings : Surroundings) (backend : Backend) :
    Except StoreError Handle × Database :=
  let asked := { database with
    calls := { database.calls with opened := database.calls.opened + 1 } }
  match backend.openFault with
  | some e => (.error e, asked)
  | none =>
    let (opened, handle) := asked.adopt surroundings memoryBackend (some [])
    (.ok handle, opened)

/-- Make the writes of a transaction final; its journal is emptied. A handle of another backend is
refused. -/
def commit (database : Database) (backend : Backend) (handle : Handle) :
    Except StoreError Unit × Database :=
  let asked := { database with
    calls := { database.calls with committed := database.calls.committed + 1 } }
  match backend.commitFault with
  | some e => (.error e, asked)
  | none =>
    match database.checkHandle handle with
    | .error e => (.error e, asked)
    | .ok () =>
      (.ok (), asked.modify handle fun t => { t with journal := t.journal.map fun _ => [] })

/-- Undo the writes of a transaction; its journal is emptied. A refusal is ignored. -/
def rollBack (database : Database) (backend : Backend) (handle : Handle) : Database :=
  let asked := { database with
    calls := { database.calls with rolledBack := database.calls.rolledBack + 1 } }
  match backend.rollbackFault with
  | some _ => asked
  | none =>
    let journal := ((asked.transaction? handle).bind Transaction.journal).getD []
    { asked with store := journal.undo asked.store }.modify handle fun t =>
      { t with journal := t.journal.map fun _ => [] }

/-- The identifier of a transaction. -/
def transactionId (database : Database) (handle : Handle) : String :=
  ((database.transaction? handle).map Transaction.id).getD ""

/-- Whether a transaction must not be committed. -/
def isRollbackOnly (database : Database) (handle : Handle) : Bool :=
  ((database.transaction? handle).map Transaction.rollbackOnly).getD false

end Database

namespace Manager

/-- What happens before the work of a unit: the context of the work, or the failure to open a
transaction. -/
def enter (manager : Manager) (surroundings : Surroundings) (context : Context)
    (database : Database) : Except StoreError Context × Database :=
  match manager, context.transaction with
  | .direct, _ => (.ok context, database)
  | .transactional _, some _ => (.ok context, database)
  | .transactional backend, none =>
    match database.openTransaction surroundings backend with
    | (.error e, database) => (.error (.transaction (.beginFailed e.message)), database)
    | (.ok handle, database) => (.ok (context.within handle), database)

/-- The end of the outermost unit of work in a transaction. -/
def close (backend : Backend) (handle : Handle) (outcome : Outcome) (database : Database) :
    Outcome × Database :=
  let id := database.transactionId handle
  match outcome with
  | .done =>
    if database.isRollbackOnly handle then
      (.failed (.transaction (.rollbackOnly id)), database.rollBack backend handle)
    else
      match database.commit backend handle with
      | (.ok (), database) => (.done, database)
      | (.error e, database) => (.failed (.transaction (.commitFailed id e.message)), database)
  | .failed cause =>
    (.failed (.transaction (.rolledBack id cause)), database.rollBack backend handle)
  | .panicked message =>
    (.failed (.transaction (.aborted id message)), database.rollBack backend handle)

/-- What happens after the work of a unit that was entered from `context` and run in `inner`. -/
def leave (manager : Manager) (context inner : Context) (outcome : Outcome)
    (database : Database) : Outcome × Database :=
  match manager, context.transaction with
  | .direct, _ => (outcome, database)
  | .transactional _, some handle =>
    match outcome with
    | .failed _ => (outcome, database.mark handle)
    | _ => (outcome, database)
  | .transactional backend, none =>
    match inner.transaction with
    | none => (outcome, database)
    | some handle => close backend handle outcome database

end Manager

end RecordStore
