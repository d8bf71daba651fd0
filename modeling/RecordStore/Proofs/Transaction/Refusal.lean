import RecordStore.Proofs.Transaction.Atomicity

/-!
# Commits that are refused

A backend may refuse to commit. All other failures of a unit of work come after its transaction has
been rolled back, or before it has been opened. This one leaves the transaction as it is: what the
work has written stays, and nobody has undone the journal, which would still lead back.

* `StoreError.isRefusedCommit` — the failures of this kind;
* `Work.Exits` — what is left of the records at each exit of a unit of work;
* `Work.atomically_restores_unless_refused` — these are the exits, whatever the backend refuses apart from rollbacks.
-/

namespace RecordStore

/-- Whether a unit of work has failed because its commit has been refused. -/
def StoreError.isRefusedCommit : StoreError → Bool
  | .transaction (.commitFailed ..) => true
  | _ => false

theorem TransactionError.not_isRefusedCommit {e : TransactionError} (h : e.isRollback = true) :
    (StoreError.transaction e).isRefusedCommit = false := by
  cases e with
  | rolledBack | rollbackOnly | aborted => rfl
  | commitFailed | beginFailed | invalidHandle => exact nomatch h

namespace Work

variable {σ : Type}

/-- The exits of a unit of work, by the records before it and by those that its work leaves. It may
be that the work is never given, because of a panic `crash?`. -/
structure Exits (backend : Backend) (handle : Handle) (before : Store) (crash? : Option String)
    (worked ended : Outcome × σ × Database) : Prop where
  /-- No other panic gets out, and this one leaves the records as before. -/
  caught : ∀ message, ended.1 = .panicked message →
    crash? = some message ∧ ∀ key, ended.2.2.store.get? key = before.get? key
  /-- The records are kept if the unit is done. -/
  done : ended.1 = .done → ∀ key, ended.2.2.store.get? key = worked.2.2.store.get? key
  /-- If it fails they are as before, unless the commit is refused and there is something to undo. -/
  restored_iff : ∀ failure, ended.1 = .failed failure →
    ((∀ key, ended.2.2.store.get? key = before.get? key) ↔
      failure.isRefusedCommit = false ∨ ∀ key, worked.2.2.store.get? key = before.get? key)
  /-- If the commit is refused they are those of the work, -/
  refused : ∀ failure, ended.1 = .failed failure → failure.isRefusedCommit = true →
    ∀ key, ended.2.2.store.get? key = worked.2.2.store.get? key
  /-- and a rollback, if there were one, would bring back those from before. -/
  undoable : ∀ failure, ended.1 = .failed failure → failure.isRefusedCommit = true →
    ∀ key, (ended.2.2.rollBack backend handle).store.get? key = before.get? key

namespace Exits

variable {backend : Backend} {handle : Handle} {before : Store} {crash? : Option String}
  {worked ended : Outcome × σ × Database}

/-- The exits at which everything is as before. -/
theorem of_restored {failure : StoreError} (failed : ended.1 = .failed failure)
    (other : failure.isRefusedCommit = false) (same : ended.2.2.store = before) :
    Exits backend handle before crash? worked ended where
  caught message panicked := nomatch failed.symm.trans panicked
  done done := nomatch failed.symm.trans done
  restored_iff failure' failed' := by
    cases failed.symm.trans failed'
    exact ⟨fun _ => .inl other, fun _ key => by rw [same]⟩
  refused failure' failed' refused := by
    cases failed.symm.trans failed'
    exact nomatch other.symm.trans refused
  undoable failure' failed' refused := by
    cases failed.symm.trans failed'
    exact nomatch other.symm.trans refused

/-- The exit at which the commit is refused. -/
theorem of_refused {id message : String}
    (failed : ended.1 = .failed (.transaction (.commitFailed id message)))
    (same : ended.2.2.store = worked.2.2.store) (back : ended.2.2.LeadsBack handle before)
    (undoes : backend.rollbackFault = none) :
    Exits backend handle before crash? worked ended where
  caught message panicked := nomatch failed.symm.trans panicked
  done done := nomatch failed.symm.trans done
  restored_iff failure failed' := by
    cases failed.symm.trans failed'
    rw [same]
    exact ⟨.inr, fun h => h.resolve_left nofun⟩
  refused _ _ _ key := by rw [same]
  undoable _ _ _ key := by rw [back.store_rollBack undoes]

end Exits

/-- A unit of work whose backend undoes what it is asked to undo takes one of these exits, whatever
its work does, as long as that writes in the transaction only. -/
theorem atomically_restores_unless_refused {context : Context} (outside : context.transaction = none)
    {body : Context → Work σ} (inside : ∀ handle, (body (context.within handle)).WritesIn handle)
    {backend : Backend} (undoes : backend.rollbackFault = none) (surroundings : Surroundings)
    (own : σ) (database : Database) :
    let handle := database.nextHandle
    let work := body (context.within handle)
    Exits backend handle database.store work.crash?
      (work.run (.transactional backend) surroundings own (database.begun surroundings))
      ((atomically context body).run (.transactional backend) surroundings own database) := by
  intro handle work
  cases opens : backend.openFault with
  | some e =>
    rw [run_atomically_of_fault outside opens]
    exact .of_restored rfl rfl rfl
  | none =>
    cases steady : work.crash? with
    | some message =>
      rw [run_atomically_of_crash outside opens surroundings own database steady]
      exact
        { caught := fun message' panicked => ⟨congrArg some (Outcome.panicked.inj panicked),
            fun _ => rfl⟩
          done := nofun
          restored_iff := nofun
          refused := nofun
          undoable := nofun }
    | none =>
      have begun := database.leadsBack_begun surroundings
      have back := run_leadsBack_of_writesIn (inside handle) backend surroundings own begun
      rw [run_atomically outside opens surroundings own database steady]
      generalize work.run _ _ _ _ = worked at back
      rcases Manager.close_cases back undoes worked.1 with
        ⟨done, -, store⟩ | ⟨e, failed, rolledBack, store⟩ | ⟨id, e, -, failed, -, store, back⟩
      · exact
          { caught := fun message panicked => nomatch done.symm.trans panicked
            done := fun _ key => congrArg (·.get? key) store
            restored_iff := fun failure failed => nomatch done.symm.trans failed
            refused := fun failure failed => nomatch done.symm.trans failed
            undoable := fun failure failed => nomatch done.symm.trans failed }
      · exact .of_restored failed (TransactionError.not_isRefusedCommit rolledBack) store
      · exact .of_refused failed store back undoes

/-- The backend that loses its connection when it is asked to commit. -/
def disconnecting : Backend := ⟨none, some (.unavailable memoryBackend "connection lost"), none⟩

/-- Work that creates an order in its transaction, counts the orders outside of it, learns of the
transaction of another backend, and goes on as `last` says. -/
def entering (last : Work Unit) (context : Context) : Work Unit :=
  call context (.create "orders" (.new "o-1")) fun _ =>
    call (.new context.tenant) (.count "orders") fun _ => foreign "postgres" fun _ => last

/-- A unit of such work that fails leaves no order. One that is done is refused and leaves it, and
there is an entry that would take it away. -/
theorem entering_restores_unless_refused :
    let key : Key := ⟨⟨⟨"acme"⟩, "orders"⟩, "o-1"⟩
    let ended (last : Work Unit) := (atomically (.new ⟨"acme"⟩) (entering last)).run
      (.transactional disconnecting) .counting () .empty
    (∀ handle, (entering done ((Context.new ⟨"acme"⟩).within handle)).WritesIn handle) ∧
      disconnecting.rollbackFault = none ∧
      (ended (fail (.notFound "orders" "o-2"))).2.2.store.get? key = none ∧
      ((ended done).2.2.store.get? key).isSome = true ∧
      ((ended done).2.2.rollBack disconnecting ⟨0⟩).store.get? key = none := by
  intro key ended
  have inside (last : Work Unit) (plain : ∀ handle, last.WritesIn handle) (handle : Handle) :
      (entering last ((Context.new ⟨"acme"⟩).within handle)).WritesIn handle :=
    ⟨fun _ => rfl, fun _ => ⟨nofun, fun _ _ => plain handle⟩⟩
  have outside : (Context.new ⟨"acme"⟩).transaction = none := rfl
  have undoes : disconnecting.rollbackFault = none := rfl
  have failed : (ended (fail (.notFound "orders" "o-2"))).1 = .failed _ := rfl
  have refused : (ended done).1 = .failed _ := rfl
  have exits := atomically_restores_unless_refused outside (inside (fail (.notFound "orders" "o-2"))
    fun _ => trivial) undoes .counting () .empty
  have refusal := atomically_restores_unless_refused outside (inside done fun _ => trivial) undoes .counting () .empty
  have there : ((ended done).2.2.store.get? key).isSome = true := by decide +kernel
  exact ⟨inside done fun _ => trivial, undoes, (exits.restored_iff _ failed).2 (.inl rfl) key,
    there, refusal.undoable _ refused rfl key⟩

/-- A unit of work fails, and an order is there that has not been there before. -/
theorem refused_unit_leaves_order :
    let key : Key := ⟨⟨⟨"acme"⟩, "orders"⟩, "o-1"⟩
    let ended := (atomically (.new ⟨"acme"⟩) fun inside =>
      call inside (.create "orders" (.new "o-1")) fun _ => done).run
        (.transactional disconnecting) .counting () .empty
    disconnecting.openFault = none ∧ disconnecting.rollbackFault = none ∧
      ended.1 = .failed (.transaction (.commitFailed "0"
        "Storage backend 'memory' is unavailable: connection lost")) ∧
      Database.empty.store.get? key = none ∧ (ended.2.2.store.get? key).isSome = true := by
  refine ⟨rfl, rfl, ?_, rfl, by decide +kernel⟩
  rfl

end Work

end RecordStore
