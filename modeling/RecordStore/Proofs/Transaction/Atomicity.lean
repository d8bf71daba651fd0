import RecordStore.Proofs.Transaction.Journals

/-!
# Units of work are all or nothing

Work in a transaction keeps a journal that leads back to the records from before the transaction,
whatever it does and however it ends. So a unit that fails leaves every record as it was, and one
that succeeds leaves the records that its steps leave outside of every transaction.

* `Work.Within`, `Work.WritesIn` — work that makes all its calls, or all its writes, in one
  transaction;
* `Database.LeadsBack` — the invariant of the journal, and `Work.run_leadsBack_of_writesIn`;
* `Manager.close_cases` — how a transaction is closed;
* `Work.detached` — the same steps outside of every transaction, and `Work.endsAlike_detached`;
* `Work.atomically_all_or_nothing` — both halves of atomicity.
-/

namespace RecordStore

/-! ### The journal of a transaction -/

namespace Database

/-- The transaction of a handle has a journal, and undoing it leads back to a store. -/
def LeadsBack (database : Database) (handle : Handle) (origin : Store) : Prop :=
  ∃ transaction journal, database.transaction? handle = some transaction ∧
    transaction.journal = some journal ∧ Journal.undo journal database.store = origin

/-- A new transaction leads back to the records as they are. -/
theorem leadsBack_begun (database : Database) (surroundings : Surroundings) :
    (database.begun surroundings).LeadsBack database.nextHandle database.store :=
  ⟨_, [], database.transaction?_begun surroundings, rfl, rfl⟩

namespace LeadsBack

variable {database : Database} {handle : Handle} {origin : Store} {context : Context}

theorem checkHandle_eq (h : database.LeadsBack handle origin) :
    database.checkHandle handle = .ok () := by
  obtain ⟨transaction, journal, found, journaled, -⟩ := h
  simp [checkHandle, found, journaled]

theorem writable (h : database.LeadsBack handle origin)
    (inside : context.transaction = some handle) : database.checkWritable context = .ok () := by
  rw [checkWritable, inside]
  exact h.checkHandle_eq

theorem modify {other : Handle} {change : Transaction → Transaction}
    (h : database.LeadsBack handle origin) (keeps : ∀ t, (change t).journal = t.journal) :
    (database.modify other change).LeadsBack handle origin := by
  obtain ⟨transaction, journal, found, journaled, back⟩ := h
  by_cases here : other = handle
  · refine ⟨change transaction, journal, ?_, (keeps transaction).trans journaled, back⟩
    rw [transaction?_modify, if_pos here, found]
    rfl
  · exact ⟨transaction, journal, by rw [transaction?_modify, if_neg here, found], journaled, back⟩

theorem mark (h : database.LeadsBack handle origin) {other : Handle} :
    (database.mark other).LeadsBack handle origin :=
  h.modify fun _ => rfl

theorem adopt (h : database.LeadsBack handle origin) (surroundings : Surroundings)
    (backend : String) : (database.adopt surroundings backend none).1.LeadsBack handle origin := by
  obtain ⟨transaction, journal, found, journaled, back⟩ := h
  have old : handle ≠ database.nextHandle := by
    rintro rfl
    simp [transaction?, nextHandle] at found
  refine ⟨transaction, journal, ?_, journaled, back⟩
  rw [← found]
  exact (database.transaction?_push _ handle).trans (if_neg old)

theorem settle {α : Type} {effect : Effect α} (h : database.LeadsBack handle origin)
    (inside : context.transaction = some handle) (restored : effect.restored = database.store) :
    (database.settle context effect).LeadsBack handle origin := by
  obtain ⟨transaction, journal, found, journaled, back⟩ := h
  refine ⟨{ transaction with journal := some (effect.entries ++ journal) }, _, ?_, rfl, ?_⟩
  · simp [transaction?_settle, found, inside, journaled]
  · rw [store_settle, Journal.undo_append]
    exact (congrArg _ restored).trans back

/-- A call in the transaction is entered into its journal. -/
theorem run (h : database.LeadsBack handle origin) (inside : context.transaction = some handle)
    (surroundings : Surroundings) (operation : Operation) :
    (operation.run surroundings context database).2.LeadsBack handle origin := by
  have moved : { database with moments := database.moments + 1 }.LeadsBack handle origin := h
  rw [Operation.run, Operation.runAt_eq_of_writable (moved.writable inside)]
  exact moved.settle inside (operation.restore_effect _ _ _)

/-- Nothing else is entered if only reading calls are made outside of the transaction. -/
theorem call (h : database.LeadsBack handle origin) {operation : Operation}
    (inside : operation.writes = true → context.transaction = some handle)
    (surroundings : Surroundings) :
    (operation.run surroundings context database).2.LeadsBack handle origin := by
  cases writes : operation.writes with
  | true => exact h.run (inside writes) surroundings operation
  | false =>
    have moved : database.tick.LeadsBack handle origin := h
    have reads := Operation.alteration_eq_none writes (surroundings.moment database.moments)
      context.tenant
    rw [Operation.run, Operation.runAt_of_reading context reads, Operation.effect_eq_reading reads]
    exact moved

/-- Rolling the transaction back restores the records. -/
theorem store_rollBack (h : database.LeadsBack handle origin) {backend : Backend}
    (undoes : backend.rollbackFault = none) :
    (database.rollBack backend handle).store = origin := by
  obtain ⟨transaction, journal, found, journaled, back⟩ := h
  rw [database.store_rollBack undoes, entries_of_journal found journaled, back]

end LeadsBack

end Database

/-! ### Work in one transaction -/

namespace Work

variable {σ : Type} {handle : Handle} {origin : Store}

/-- Work that makes all its calls in the transaction of a handle, as a closure does that uses the
context it is given, or one with another tenant or deadline. -/
def Within (handle : Handle) : Work σ → Prop
  | done => True
  | fail _ => True
  | panic _ => True
  | crash _ => True
  | note _ next => ∀ own, (next own).Within handle
  | call context _ next =>
    context.transaction = some handle ∧ ∀ reply, (next reply).Within handle
  | look _ _ => False
  | mark context next => context.transaction = some handle ∧ next.Within handle
  | foreign _ _ => False
  | unit context body next =>
    context.transaction = some handle ∧ (body context).Within handle ∧
      ∀ reply, (next reply).Within handle

/-- Work that writes in the transaction of a handle only, and whose units of work are all nested in
it. It may read, look at transactions and mark them wherever it likes. -/
def WritesIn (handle : Handle) : Work σ → Prop
  | done => True
  | fail _ => True
  | panic _ => True
  | crash _ => True
  | note _ next => ∀ own, (next own).WritesIn handle
  | call context operation next =>
    (operation.writes = true → context.transaction = some handle) ∧
      ∀ reply, (next reply).WritesIn handle
  | look _ next => ∀ transaction, (next transaction).WritesIn handle
  | mark _ next => next.WritesIn handle
  | foreign _ next => ∀ other, (next other).WritesIn handle
  | unit context body next =>
    context.transaction = some handle ∧ (body context).WritesIn handle ∧
      ∀ reply, (next reply).WritesIn handle

theorem Within.writesIn {work : Work σ} (inside : work.Within handle) : work.WritesIn handle := by
  induction work with
  | done | fail | panic | crash => trivial
  | note change next ih => exact fun own => ih own (inside own)
  | call context operation next ih => exact ⟨fun _ => inside.1, fun reply => ih _ (inside.2 reply)⟩
  | look | foreign => exact inside.elim
  | mark context next ih => exact ih inside.2
  | unit context body next ihBody ihNext =>
    exact ⟨inside.1, ihBody _ inside.2.1, fun reply => ihNext _ (inside.2.2 reply)⟩

/-- However work that writes in a transaction ends, the journal leads back. -/
theorem run_leadsBack_of_writesIn {work : Work σ} (inside : work.WritesIn handle)
    (backend : Backend) (surroundings : Surroundings) (own : σ) {database : Database}
    (h : database.LeadsBack handle origin) :
    (work.run (.transactional backend) surroundings own database).2.2.LeadsBack handle origin := by
  induction work generalizing own database with
  | done | fail | panic | crash => exact h
  | note change next ih => exact ih _ (inside _) _ h
  | call context operation next ih =>
    exact ih _ (inside.2 _) _ (h.call inside.1 surroundings)
  | look context next ih => exact ih _ (inside _) _ h
  | mark context next ih =>
    rw [run]
    cases context.transaction with
    | none => exact ih inside _ h
    | some other => exact ih inside _ h.mark
  | foreign backend next ih => exact ih _ (inside _) _ (h.adopt surroundings backend)
  | unit context body next ihBody ihNext =>
    obtain ⟨here, insideBody, insideNext⟩ := inside
    have after := ihBody context insideBody own h
    rw [run_unit_of_inside here]
    generalize (body context).run _ _ _ _ = ended at after
    obtain ⟨outcome, own, database⟩ := ended
    -- only a failure touches the transaction once more, to mark it
    cases outcome with
    | done => exact ihNext _ (insideNext _) _ after
    | failed e => exact ihNext _ (insideNext _) _ after.mark
    | panicked message => exact after

theorem run_leadsBack {work : Work σ} (inside : work.Within handle) (backend : Backend)
    (surroundings : Surroundings) (own : σ) {database : Database}
    (h : database.LeadsBack handle origin) :
    (work.run (.transactional backend) surroundings own database).2.2.LeadsBack handle origin :=
  run_leadsBack_of_writesIn inside.writesIn backend surroundings own h

/-! ### The same steps outside of every transaction -/

/-- The same steps in contexts without a transaction. A nested unit of work goes through the steps
that it goes through in the transaction. -/
def detached : Work σ → Work σ
  | done => done
  | fail error => fail error
  | panic message => panic message
  | crash message => crash message
  | note change next => note change fun own => (next own).detached
  | call context operation next =>
    call { context with transaction := none } operation fun reply => (next reply).detached
  | look context next =>
    look { context with transaction := none } fun transaction => (next transaction).detached
  | mark context next => mark { context with transaction := none } next.detached
  | foreign backend next => foreign backend fun handle => (next handle).detached
  | unit context body next =>
    unit { context with transaction := none } (fun _ => (body context).detached) fun reply =>
      (next reply).detached

/-- Two runs end alike: in the same way, with the same variables and records, and with the same
number of moments used. -/
structure EndsAlike (a b : Outcome × σ × Database) : Prop where
  outcome : a.1 = b.1
  own : a.2.1 = b.2.1
  store : a.2.2.store = b.2.2.store
  moments : a.2.2.moments = b.2.2.moments

/-- Work in a transaction and its steps outside of every transaction keep in step. -/
theorem endsAlike_detached {work : Work σ} (inside : work.Within handle) (backend : Backend)
    (surroundings : Surroundings) (own : σ) {database plain : Database}
    (h : database.LeadsBack handle origin) (store : database.store = plain.store)
    (moments : database.moments = plain.moments) :
    EndsAlike (work.run (.transactional backend) surroundings own database)
      (work.detached.run .direct surroundings own plain) := by
  induction work generalizing own database plain with
  | done | fail | panic | crash => exact ⟨rfl, rfl, store, moments⟩
  | note change next ih => exact ih _ (inside _) _ h store moments
  | call context operation next ih =>
    -- both calls have the same effect, since they are made on the same records at the same moment
    have later := h.run inside.1 surroundings operation
    have free : { plain with moments := plain.moments + 1 }.checkWritable
        { context with transaction := none } = .ok () := rfl
    have moved : { database with moments := database.moments + 1 }.LeadsBack handle origin := h
    rw [Operation.run, Operation.runAt_eq_of_writable (moved.writable inside.1)] at later
    rw [run, detached, run, Operation.run, Operation.run,
      Operation.runAt_eq_of_writable (moved.writable inside.1),
      Operation.runAt_eq_of_writable free]
    simp only [store, moments] at later ⊢
    exact ih _ (inside.2 _) own later (by simp) (by simp)
  | look | foreign => exact inside.elim
  | mark context next ih =>
    rw [run, inside.1]
    exact ih inside.2 own h.mark store moments
  | unit context body next ihBody ihNext =>
    obtain ⟨here, insideBody, insideNext⟩ := inside
    have after := run_leadsBack insideBody backend surroundings own h
    have alike := ihBody context insideBody own h store moments
    rw [run_unit_of_inside here, detached, run_unit_direct]
    generalize (body context).run _ _ _ _ = ended at after alike
    generalize (body context).detached.run _ _ _ _ = plainEnded at alike
    obtain ⟨outcome, own, database⟩ := ended
    obtain ⟨plainOutcome, plainOwn, plain⟩ := plainEnded
    obtain ⟨rfl, rfl, store, moments⟩ := alike
    cases outcome with
    | done => exact ihNext _ (insideNext _) _ after store moments
    | failed e => exact ihNext _ (insideNext _) _ after.mark store moments
    | panicked message => exact ⟨rfl, rfl, store, moments⟩

end Work

/-! ### Closing -/

/-- The failures of a unit of work whose transaction has been rolled back. -/
def TransactionError.isRollback : TransactionError → Bool
  | .rolledBack .. => true
  | .rollbackOnly .. => true
  | .aborted .. => true
  | _ => false

/-- How a transaction is closed by a backend that may refuse to commit. The records of a unit that
is done are kept, also if the commit is refused, and then the journal still leads back. Those of
any other unit are taken back. -/
theorem Manager.close_cases {database : Database} {handle : Handle} {origin : Store}
    (h : database.LeadsBack handle origin) {backend : Backend}
    (undoes : backend.rollbackFault = none) (outcome : Outcome) :
    let closed := close backend handle outcome database
    (closed.1 = .done ∧ outcome = .done ∧ closed.2.store = database.store) ∨
      (∃ e, closed.1 = .failed (.transaction e) ∧ e.isRollback ∧ closed.2.store = origin) ∨
      ∃ id e, backend.commitFault = some e ∧
        closed.1 = .failed (.transaction (.commitFailed id e.message)) ∧ outcome = .done ∧
        closed.2.store = database.store ∧ closed.2.LeadsBack handle origin := by
  have undone : (database.rollBack backend handle).store = origin := h.store_rollBack undoes
  cases outcome with
  | failed cause => exact .inr (.inl ⟨_, rfl, rfl, undone⟩)
  | panicked message => exact .inr (.inl ⟨_, rfl, rfl, undone⟩)
  | done =>
    unfold close
    cases database.isRollbackOnly handle with
    | true => exact .inr (.inl ⟨_, rfl, rfl, undone⟩)
    | false =>
      unfold Database.commit
      rw [h.checkHandle_eq]
      cases refused : backend.commitFault with
      | none => exact .inl ⟨rfl, rfl, rfl⟩
      | some e => exact .inr (.inr ⟨_, e, rfl, rfl, rfl, rfl, h⟩)

/-- A backend that refuses nothing keeps the records of a unit that is done, and takes back those
of any other. -/
theorem Manager.close_reliable {database : Database} {handle : Handle} {origin : Store}
    (h : database.LeadsBack handle origin) (outcome : Outcome) :
    ((close .reliable handle outcome database).1 = .done ∧ outcome = .done ∧
        (close .reliable handle outcome database).2.store = database.store) ∨
      ∃ e, (close .reliable handle outcome database).1 = .failed (.transaction e) ∧ e.isRollback ∧
        (close .reliable handle outcome database).2.store = origin := by
  have undoes : Backend.reliable.rollbackFault = none := rfl
  rcases close_cases h undoes outcome with done | rolledBack | ⟨id, e, refused, -⟩
  · exact .inl done
  · exact .inr rolledBack
  · exact nomatch refused

namespace Work

variable {σ : Type}

/-- Units of work are all or nothing. Either the unit is done, and then the records are those that
its steps leave outside of every transaction; or it fails with an error that says so, and then
every key has the record that it had before. So it has where the program panics before it has given
its work, and there is neither an answer nor an error. -/
theorem atomically_all_or_nothing {context : Context} (outside : context.transaction = none)
    {body : Context → Work σ} (inside : ∀ handle, (body (context.within handle)).Within handle)
    (surroundings : Surroundings) (own : σ) (database : Database) :
    let ended :=
      (atomically context body).run (.transactional .reliable) surroundings own database
    let plain :=
      (body (context.within database.nextHandle)).detached.run .direct surroundings own database
    (ended.1 = .done ∧ plain.1 = .done ∧ ended.2.1 = plain.2.1 ∧
        ∀ key, ended.2.2.store.get? key = plain.2.2.store.get? key) ∨
      (∃ e, ended.1 = .failed (.transaction e) ∧ e.isRollback ∧
        ∀ key, ended.2.2.store.get? key = database.store.get? key) ∨
      ∃ message, (body (context.within database.nextHandle)).crash? = some message ∧
        ended.1 = .panicked message ∧
        ∀ key, ended.2.2.store.get? key = database.store.get? key := by
  intro ended plain
  have opens : Backend.reliable.openFault = none := rfl
  have within := inside database.nextHandle
  have begun := database.leadsBack_begun surroundings
  have back := run_leadsBack within .reliable surroundings own begun
  have alike : EndsAlike _ plain :=
    endsAlike_detached within .reliable surroundings own begun rfl rfl
  cases steady : (body (context.within database.nextHandle)).crash? with
  | some message =>
    have course : ended = _ := run_atomically_of_crash outside opens surroundings own database steady
    rw [course]
    exact .inr (.inr ⟨message, rfl, rfl, fun _ => rfl⟩)
  | none =>
    have course : ended = _ := run_atomically outside opens surroundings own database steady
    rw [course]
    -- only a unit that is done is closed without going back
    rcases Manager.close_reliable back _ with ⟨done, outcome, store⟩ | ⟨e, failed, rolledBack, store⟩
    · refine .inl ⟨done, alike.outcome.symm.trans outcome, alike.own, fun key => ?_⟩
      exact congrArg (·.get? key) (store.trans alike.store)
    · refine .inr (.inl ⟨e, failed, rolledBack, fun key => ?_⟩)
      exact congrArg (·.get? key) store

/-- Work that removes an order and stores another one in its place, and then swallows the failure
of a nested unit. -/
def replacing (context : Context) : Work Unit :=
  call context (.delete "orders" "o-1") fun _ =>
    call context (.create "orders" (.new "o-1")) fun _ =>
      call context (.update "orders" "o-1" .empty) fun _ =>
        unit context (fun _ => fail (.notFound "orders" "o-2")) fun _ => done

/-- The order that was replaced is there again. -/
theorem replacing_leaves_order :
    let order : Record := (Record.new "o-1").set "amount" (.integer 5)
    let key : Key := ⟨⟨⟨"acme"⟩, "orders"⟩, "o-1"⟩
    let database := { Database.empty with store := Store.empty.put key order }
    (Context.new ⟨"acme"⟩).transaction = none ∧
      (∀ handle, (replacing ((Context.new ⟨"acme"⟩).within handle)).Within handle) ∧
      ((atomically (.new ⟨"acme"⟩) replacing).run (.transactional .reliable) .counting ()
        database).2.2.store.get? key = some order := by
  intro order key database
  have inside (handle : Handle) :
      (replacing ((Context.new ⟨"acme"⟩).within handle)).Within handle :=
    ⟨rfl, fun _ => ⟨rfl, fun _ => ⟨rfl, fun _ => ⟨rfl, trivial, fun _ => trivial⟩⟩⟩⟩
  refine ⟨rfl, inside, ?_⟩
  rcases atomically_all_or_nothing rfl inside .counting () database with
    ⟨done, -⟩ | ⟨e, -, -, same⟩ | ⟨message, crashes, -⟩
  · have failed :
        ((atomically (.new ⟨"acme"⟩) replacing).run (.transactional .reliable) .counting ()
          database).1 =
          .failed (.transaction (.rollbackOnly (Surroundings.counting.transactionId 0))) := rfl
    exact absurd (failed.symm.trans done) nofun
  · rw [same key]
    rfl
  · exact nomatch crashes

end Work

end RecordStore
