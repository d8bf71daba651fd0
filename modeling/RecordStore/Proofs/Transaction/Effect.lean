import RecordStore.Transaction.Work

/-!
# The effect of a call

What a call does is settled by the moment, the tenant and the records alone: it has an answer, it
leaves a store, and if it has changed the store there is an entry that takes the change back.
Transactions add only two things, the refusal of foreign handles and the entry in the journal.

* `Operation.effect` — the effect of a call;
* `Operation.runAt_eq_of_writable`, `Operation.runAt_cases` — all that a call can do to a database.
-/

namespace RecordStore

theorem Journal.undo_append (newer older : Journal) (store : Store) :
    Journal.undo (newer ++ older) store = Journal.undo older (Journal.undo newer store) := by
  induction newer generalizing store with
  | nil => rfl
  | cons entry newer ih => exact ih _

/-! ### Effects -/

/-- The answer of a call, the store that it leaves, and how to take back what it changed. -/
structure Effect (α : Type) where
  reply : Except StoreError α
  store : Store
  undo : Option UndoEntry

namespace Effect

variable {α : Type}

/-- The effect of a call that only reads. -/
def reading (store : Store) (reply : Except StoreError α) : Effect α := ⟨reply, store, none⟩

/-- The effect of a write; one that fails changes nothing. -/
def writing (store : Store) (change : Store → Except StoreError (Change α)) : Effect α :=
  match change store with
  | .error e => ⟨.error e, store, none⟩
  | .ok c => ⟨.ok c.answer, c.store, some c.undo⟩

/-- The entries of a call in the journal: one if it has changed the store. -/
def entries (effect : Effect α) : Journal := effect.undo.toList

/-- The store from before a call, out of the store that the call has left. -/
def restored (effect : Effect α) : Store := effect.entries.undo effect.store

end Effect

namespace Operation

/-- The effect of a call on the tables of a tenant. -/
def effect (moment : Moment) (tenant : Tenant) (store : Store) :
    (operation : Operation) → Effect operation.Reply
  | create table record =>
    .writing store fun store => store.create ⟨tenant, table⟩ moment record
  | read table id => .reading store (store.read ⟨tenant, table⟩ id)
  | update table id patch =>
    .writing store fun store => store.update ⟨tenant, table⟩ moment id patch
  | delete table id => .writing store fun store => store.delete ⟨tenant, table⟩ id
  | list table params => .reading store (store.list ⟨tenant, table⟩ moment.arrangement params)
  | query table statement =>
    .reading store (store.query ⟨tenant, table⟩ moment.arrangement statement)
  | snapshot table => .reading store (.ok (store.snapshot ⟨tenant, table⟩ moment.arrangement))
  | count table => .reading store (.ok (store.table ⟨tenant, table⟩).length)

end Operation

/-! ### Effects on a database -/

namespace Database

/-- Let an effect happen in a context: its entry goes into the journal of the transaction. -/
def settle {α : Type} (database : Database) (context : Context) (effect : Effect α) : Database :=
  match effect.undo with
  | none => { database with store := effect.store }
  | some entry => { database with store := effect.store }.record context entry

theorem transaction?_modify (database : Database) (handle other : Handle)
    (change : Transaction → Transaction) :
    (database.modify handle change).transaction? other =
      if handle = other then (database.transaction? other).map change
      else database.transaction? other := by
  obtain ⟨i⟩ := handle
  obtain ⟨j⟩ := other
  by_cases h : i = j <;> simp [modify, transaction?, h]

@[simp] theorem store_record (database : Database) (context : Context) (entry : UndoEntry) :
    (database.record context entry).store = database.store := by
  unfold record
  split <;> rfl

@[simp] theorem moments_record (database : Database) (context : Context) (entry : UndoEntry) :
    (database.record context entry).moments = database.moments := by
  unfold record
  split <;> rfl

@[simp] theorem calls_record (database : Database) (context : Context) (entry : UndoEntry) :
    (database.record context entry).calls = database.calls := by
  unfold record
  split <;> rfl

variable {α : Type} (database : Database) (context : Context) (effect : Effect α)

@[simp] theorem store_settle : (database.settle context effect).store = effect.store := by
  unfold settle
  split <;> simp

@[simp] theorem moments_settle :
    (database.settle context effect).moments = database.moments := by
  unfold settle
  split <;> simp

@[simp] theorem calls_settle : (database.settle context effect).calls = database.calls := by
  unfold settle
  split <;> simp

/-- An effect touches the journal of the transaction of its context, and nothing else of the
transactions. -/
theorem transaction?_settle (handle : Handle) :
    (database.settle context effect).transaction? handle =
      (database.transaction? handle).map fun t =>
        if context.transaction = some handle then
          { t with journal := t.journal.map (effect.entries ++ ·) }
        else t := by
  obtain ⟨reply, store, undo⟩ := effect
  -- there is nothing to enter without a change, nor outside of every transaction
  cases undo with
  | none =>
    show database.transaction? handle = _
    simp [Effect.entries]
  | some entry =>
    show ({ database with store }.record context entry).transaction? handle = _
    unfold record
    cases hc : context.transaction with
    | none =>
      show database.transaction? handle = _
      simp
    | some own =>
      rw [transaction?_modify]
      show (if own = handle then (database.transaction? handle).map _
        else database.transaction? handle) = _
      by_cases h : own = handle <;> simp [h, Effect.entries]

/-- A write in a context that may write has its effect. -/
theorem write_of_writable (h : database.checkWritable context = .ok ())
    (change : Store → Except StoreError (Change α)) :
    database.write context change =
      ((Effect.writing database.store change).reply,
        database.settle context (.writing database.store change)) := by
  simp only [write, h, Effect.writing, settle]
  cases change database.store <;> rfl

theorem write_of_refused {e : StoreError} (h : database.checkWritable context = .error e)
    (change : Store → Except StoreError (Change α)) :
    database.write context change = (.error e, database) := by
  simp only [write, h]

end Database

namespace Operation

/-- In a context that may write every call has its effect. -/
theorem runAt_eq_of_writable {database : Database} {context : Context}
    (h : database.checkWritable context = .ok ()) (moment : Moment) (operation : Operation) :
    operation.runAt moment context database =
      ((operation.effect moment context.tenant database.store).reply,
        database.settle context (operation.effect moment context.tenant database.store)) := by
  cases operation with
  | create | update | delete =>
    unfold runAt effect
    exact database.write_of_writable context h _
  | read | list | query | snapshot | count => rfl

/-- A call is refused and changes nothing, or it has its effect. -/
theorem runAt_cases (moment : Moment) (context : Context) (database : Database)
    (operation : Operation) :
    (∃ e, operation.runAt moment context database = (.error e, database)) ∨
      operation.runAt moment context database =
        ((operation.effect moment context.tenant database.store).reply,
          database.settle context (operation.effect moment context.tenant database.store)) := by
  cases h : database.checkWritable context with
  | ok u => exact .inr (runAt_eq_of_writable h moment operation)
  | error e =>
    cases operation with
    | create | update | delete =>
      unfold runAt
      exact .inl ⟨e, database.write_of_refused context h _⟩
    | read | list | query | snapshot | count => exact .inr rfl

end Operation

end RecordStore
