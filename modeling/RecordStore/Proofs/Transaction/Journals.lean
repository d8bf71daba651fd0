import RecordStore.Proofs.Transaction.Alteration
import RecordStore.Proofs.Transaction.Unit

/-!
# The entries of journals

What the steps on a database do to the journals of its transactions. A journal gets new entries by
calls in its transaction only, and loses all of them at the end of the transaction.

* `Database.entries` — the entries of a transaction;
* `Database.push`, `Transaction.cleared` — opening and ending a transaction, as far as its journal
  is concerned, with `Database.transaction?_push`;
* `Database.mem_entries_runAt`, `Database.mem_entries_modify`, `Database.mem_entries_push` — where
  the entries come from;
* `Database.Ending` — marking and ending a transaction, and `Manager.leave_cases` — units of work do
  no more.
-/

namespace RecordStore

/-- The entries of the journal of a transaction, if it has one. -/
def Transaction.entries (transaction : Transaction) : Journal := transaction.journal.getD []

/-- A transaction whose journal has been emptied. -/
def Transaction.cleared (transaction : Transaction) : Transaction :=
  { transaction with journal := transaction.journal.map fun _ => [] }

theorem Transaction.entries_cleared (transaction : Transaction) :
    transaction.cleared.entries = [] := by
  unfold cleared entries
  cases transaction.journal <;> rfl

namespace Database

/-- The entries of the transaction of a handle. -/
def entries (database : Database) (handle : Handle) : Journal :=
  ((database.transaction? handle).bind Transaction.journal).getD []

theorem entries_of_transaction {database : Database} {handle : Handle} {transaction : Transaction}
    (h : database.transaction? handle = some transaction) :
    database.entries handle = transaction.entries := by
  rw [entries, h]
  rfl

theorem entries_of_journal {database : Database} {handle : Handle} {transaction : Transaction}
    {journal : Journal} (found : database.transaction? handle = some transaction)
    (journaled : transaction.journal = some journal) : database.entries handle = journal := by
  rw [entries_of_transaction found, Transaction.entries, journaled]
  rfl

theorem mem_entries_iff {database : Database} {handle : Handle} {entry : UndoEntry} :
    entry ∈ database.entries handle ↔
      ∃ transaction, database.transaction? handle = some transaction ∧
        entry ∈ transaction.entries := by
  cases h : database.transaction? handle with
  | none => simp [entries, h]
  | some transaction => simp [entries_of_transaction h]

/-- The database with one more transaction. -/
def push (database : Database) (opened : Transaction) : Database :=
  { database with transactions := database.transactions ++ [opened] }

theorem transaction?_push (database : Database) (opened : Transaction) (handle : Handle) :
    (database.push opened).transaction? handle =
      if handle = database.nextHandle then some opened else database.transaction? handle := by
  obtain ⟨number⟩ := handle
  simp only [push, transaction?, nextHandle, Handle.mk.injEq]
  rcases Nat.lt_trichotomy number database.transactions.length with less | rfl | greater
  · rw [List.getElem?_append_left less, if_neg (by omega)]
  · simp
  · rw [if_neg (by omega), List.getElem?_eq_none (by simp; omega),
      List.getElem?_eq_none (by omega)]

variable {database : Database} {handle other : Handle} {entry : UndoEntry}

/-- A change of a transaction that adds no entries adds none to the database. -/
theorem mem_entries_modify {change : Transaction → Transaction}
    (keeps : ∀ t, ∀ entry ∈ (change t).entries, entry ∈ t.entries)
    (h : entry ∈ (database.modify handle change).entries other) :
    entry ∈ database.entries other := by
  obtain ⟨t, found, mem⟩ := mem_entries_iff.1 h
  rw [transaction?_modify] at found
  by_cases here : handle = other
  · rw [if_pos here] at found
    obtain ⟨old, known, rfl⟩ := Option.map_eq_some_iff.1 found
    exact mem_entries_iff.2 ⟨old, known, keeps old entry mem⟩
  · rw [if_neg here] at found
    exact mem_entries_iff.2 ⟨t, found, mem⟩

theorem mem_entries_push {opened : Transaction} (empty : opened.entries = [])
    (h : entry ∈ (database.push opened).entries other) : entry ∈ database.entries other := by
  obtain ⟨t, found, mem⟩ := mem_entries_iff.1 h
  rw [transaction?_push] at found
  by_cases here : other = database.nextHandle
  · rw [if_pos here] at found
    obtain rfl := Option.some.inj found
    rw [empty] at mem
    exact absurd mem List.not_mem_nil
  · rw [if_neg here] at found
    exact mem_entries_iff.2 ⟨t, found, mem⟩

/-- An effect in a transaction with a journal is entered into it. -/
theorem entries_settle {α : Type} {context : Context} (inside : context.transaction = some handle)
    {transaction : Transaction} {journal : Journal}
    (found : database.transaction? handle = some transaction)
    (journaled : transaction.journal = some journal) (effect : Effect α) :
    (database.settle context effect).entries handle = effect.entries ++ journal := by
  simp [entries, transaction?_settle, found, inside, journaled]

theorem mem_entries_settle {α : Type} {context : Context} {effect : Effect α}
    (h : entry ∈ (database.settle context effect).entries other) :
    entry ∈ database.entries other ∨
      context.transaction = some other ∧ entry ∈ effect.entries := by
  obtain ⟨t, found, mem⟩ := mem_entries_iff.1 h
  rw [transaction?_settle] at found
  obtain ⟨old, known, rfl⟩ := Option.map_eq_some_iff.1 found
  by_cases inside : context.transaction = some other
  · rw [if_pos inside, Transaction.entries] at mem
    cases journal : old.journal with
    | none => simp [journal] at mem
    | some entries =>
      rw [journal] at mem
      rcases List.mem_append.1 (show entry ∈ effect.entries ++ entries from mem) with mem | mem
      · exact .inr ⟨inside, mem⟩
      · refine .inl (mem_entries_iff.2 ⟨old, known, ?_⟩)
        rw [Transaction.entries, journal]
        exact mem
  · rw [if_neg inside] at mem
    exact .inl (mem_entries_iff.2 ⟨old, known, mem⟩)

/-- A call adds no other entries than its own, to the journal of its transaction. -/
theorem mem_entries_runAt {moment : Moment} {context : Context} {operation : Operation}
    (h : entry ∈ (operation.runAt moment context database).2.entries other) :
    entry ∈ database.entries other ∨ context.transaction = some other ∧
      entry ∈ (operation.effect moment context.tenant database.store).entries := by
  rcases operation.runAt_cases moment context database with ⟨e, refused⟩ | settled
  · rw [refused] at h
    exact .inl h
  · rw [settled] at h
    exact mem_entries_settle h

theorem mem_entries_run {surroundings : Surroundings} {context : Context} {operation : Operation}
    (h : entry ∈ (operation.run surroundings context database).2.entries other) :
    entry ∈ database.entries other ∨ context.transaction = some other ∧
      entry ∈ (operation.effect (surroundings.moment database.moments) context.tenant
        database.store).entries := by
  have moved : entry ∈ (operation.runAt (surroundings.moment database.moments) context
      database.tick).2.entries other := h
  have known := mem_entries_runAt moved
  exact known

@[simp] theorem length_transactions_modify (database : Database) (handle : Handle)
    (change : Transaction → Transaction) :
    (database.modify handle change).transactions.length = database.transactions.length := by
  simp [modify]

@[simp] theorem length_transactions_push (database : Database) (opened : Transaction) :
    (database.push opened).transactions.length = database.transactions.length + 1 := by
  simp [push]

theorem length_transactions_settle {α : Type} (database : Database) (context : Context)
    (effect : Effect α) :
    (database.settle context effect).transactions.length = database.transactions.length := by
  unfold settle record
  split
  · rfl
  · split <;> simp

theorem length_transactions_run (database : Database) (surroundings : Surroundings)
    (context : Context) (operation : Operation) :
    (operation.run surroundings context database).2.transactions.length =
      database.transactions.length := by
  rcases operation.run_cases surroundings context database with ⟨e, refused⟩ | settled
  · rw [refused]
    rfl
  · rw [settled]
    exact length_transactions_settle _ context _

/-- Opening a transaction. -/
theorem snd_openTransaction (database : Database) (surroundings : Surroundings)
    (backend : Backend) :
    (database.openTransaction surroundings backend).2 =
      let asked := { database with
        calls := { database.calls with opened := database.calls.opened + 1 } }
      if backend.openFault = none then (asked.adopt surroundings memoryBackend (some [])).1
      else asked := by
  unfold openTransaction
  cases backend.openFault <;> rfl

/-! ### Ending a transaction -/

theorem checkHandle_eq_error_iff {database : Database} {handle : Handle} {e : StoreError} :
    database.checkHandle handle = .error e ↔
      ∃ t, database.transaction? handle = some t ∧ t.journal = none ∧ e = foreignHandle t := by
  unfold checkHandle
  cases database.transaction? handle with
  | none => simp
  | some t => cases journal : t.journal <;> simp [journal, eq_comm]

/-- There is no journal to empty in the transaction of another backend. -/
theorem modify_cleared_of_foreign {database : Database} {handle : Handle} {e : StoreError}
    (foreign : database.checkHandle handle = .error e) :
    database.modify handle .cleared = database := by
  obtain ⟨t, found, journal, -⟩ := checkHandle_eq_error_iff.1 foreign
  have same : t.cleared = t := by
    obtain ⟨id, backend, _, rollbackOnly⟩ := t
    obtain rfl := journal
    rfl
  have transactions : database.transactions.modify handle.number .cleared =
      database.transactions := by
    apply List.ext_getElem?
    intro i
    rw [List.getElem?_modify]
    by_cases here : handle.number = i
    · have found : database.transactions[i]? = some t := here ▸ found
      simp [here, found, same]
    · simp [here]
  rw [modify, transactions]

/-- Ending a transaction without undoing it. -/
theorem snd_commit (database : Database) (backend : Backend) (handle : Handle) :
    (database.commit backend handle).2 =
      let asked := { database with
        calls := { database.calls with committed := database.calls.committed + 1 } }
      if backend.commitFault = none then asked.modify handle .cleared else asked := by
  unfold commit
  cases backend.commitFault with
  | some e => rfl
  | none =>
    cases known : database.checkHandle handle with
    | ok u => rfl
    | error e =>
      have asked : { database with
          calls := { database.calls with
            committed := database.calls.committed + 1 } }.checkHandle handle = .error e := known
      exact (modify_cleared_of_foreign asked).symm

/-- Undoing a transaction. -/
theorem rollBack_eq (database : Database) (backend : Backend) (handle : Handle) :
    database.rollBack backend handle =
      let asked := { database with
        calls := { database.calls with rolledBack := database.calls.rolledBack + 1 } }
      if backend.rollbackFault = none then
        { asked with store := (database.entries handle).undo database.store }.modify handle .cleared
      else asked := by
  unfold rollBack
  cases backend.rollbackFault <;> rfl

@[simp] theorem store_commit (database : Database) (backend : Backend) (handle : Handle) :
    (database.commit backend handle).2.store = database.store := by
  rw [snd_commit]
  dsimp only
  split <;> rfl

theorem store_rollBack (database : Database) {backend : Backend}
    (undoes : backend.rollbackFault = none) (handle : Handle) :
    (database.rollBack backend handle).store = (database.entries handle).undo database.store := by
  rw [rollBack_eq, undoes]
  rfl

/-- A transaction is marked, or ends in one of the two ways. -/
inductive Ending (handle : Handle) (database : Database) : Database → Prop where
  | marked : Ending handle database (database.mark handle)
  | committed (backend : Backend) : Ending handle database (database.commit backend handle).2
  | rolledBack (backend : Backend) : Ending handle database (database.rollBack backend handle)

theorem modify_id (database : Database) (handle : Handle) :
    database.modify handle id = database := by
  simp [modify]

namespace Ending

variable {after : Database}

/-- The transaction is changed, so that its journal has no new entries, and the records stay as they
are or the journal is undone. -/
theorem eq_modify (ending : Ending handle database after) :
    ∃ (store : Store) (calls : Calls) (change : Transaction → Transaction),
      after = { database with store, calls }.modify handle change ∧
        (store = database.store ∨ store = (database.entries handle).undo database.store) ∧
        ∀ t, ∀ entry ∈ (change t).entries, entry ∈ t.entries := by
  have cleared : ∀ t : Transaction, ∀ entry ∈ t.cleared.entries, entry ∈ t.entries := by
    intro t entry mem
    rw [t.entries_cleared] at mem
    exact absurd mem List.not_mem_nil
  have kept : ∀ t : Transaction, ∀ entry ∈ (id t).entries, entry ∈ t.entries := fun _ _ mem => mem
  cases ending with
  | marked => exact ⟨_, _, _, rfl, .inl rfl, fun _ _ mem => mem⟩
  | committed backend =>
    rw [snd_commit]
    dsimp only
    split
    · exact ⟨_, _, _, rfl, .inl rfl, cleared⟩
    · exact ⟨_, _, id, (modify_id _ handle).symm, .inl rfl, kept⟩
  | rolledBack backend =>
    rw [rollBack_eq]
    dsimp only
    split
    · exact ⟨_, _, _, rfl, .inr rfl, cleared⟩
    · exact ⟨_, _, id, (modify_id _ handle).symm, .inl rfl, kept⟩

theorem mem_entries (ending : Ending handle database after) (h : entry ∈ after.entries other) :
    entry ∈ database.entries other := by
  obtain ⟨store, calls, change, rfl, -, shrinks⟩ := ending.eq_modify
  have known := mem_entries_modify shrinks h
  exact known

theorem length_transactions (ending : Ending handle database after) :
    after.transactions.length = database.transactions.length := by
  obtain ⟨store, calls, change, rfl, -, -⟩ := ending.eq_modify
  exact length_transactions_modify _ handle change

/-- The other transactions stay as they are. -/
theorem transaction?_eq (ending : Ending handle database after) (apart : handle ≠ other) :
    after.transaction? other = database.transaction? other := by
  obtain ⟨store, calls, change, rfl, -, -⟩ := ending.eq_modify
  rw [transaction?_modify, if_neg apart]
  rfl

theorem store_cases (ending : Ending handle database after) :
    after.store = database.store ∨
      after.store = (database.entries handle).undo database.store := by
  obtain ⟨store, calls, change, rfl, undone, -⟩ := ending.eq_modify
  exact undone

end Ending

end Database

/-- All that the end of a unit of work does to a database: nothing, or to mark or to end the
transaction of the unit. -/
theorem Manager.leave_cases (manager : Manager) (context inner : Context) (outcome : Outcome)
    (database : Database) :
    (manager.leave context inner outcome database).2 = database ∨
      ∃ handle, (context.transaction = some handle ∨ inner.transaction = some handle) ∧
        database.Ending handle (manager.leave context inner outcome database).2 := by
  cases manager with
  | direct => exact .inl rfl
  | transactional backend =>
    cases around : context.transaction with
    | some handle =>
      rw [leave_of_inside around]
      cases outcome with
      | failed e => exact .inr ⟨handle, .inl rfl, .marked⟩
      | done | panicked => exact .inl rfl
    | none =>
      cases own : inner.transaction with
      | none => exact .inl (by simp only [leave, around, own])
      | some handle =>
        refine .inr ⟨handle, .inr rfl, ?_⟩
        simp only [leave, around, own, close]
        cases outcome with
        | failed | panicked => exact .rolledBack backend
        | done =>
          have committed : database.Ending handle (database.commit backend handle).2 :=
            .committed backend
          rcases asked : database.commit backend handle with ⟨answer, after⟩
          rw [asked] at committed
          cases database.isRollbackOnly handle with
          | true => exact .rolledBack backend
          | false => cases answer <;> exact committed

end RecordStore
