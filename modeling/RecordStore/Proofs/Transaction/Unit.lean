import RecordStore.Proofs.Transaction.Effect

/-!
# The course of a unit of work

A unit inside of a transaction passes its context on and opens nothing. The outermost unit opens a
transaction, runs its work with the new handle, and closes the transaction by the end of the work.

* `Work.run_unit_of_inside`, `Work.run_unit_direct` — a unit inside of a transaction, and one
  without transactions;
* `Work.atomically` — a unit whose answer is the end of the work;
* `Work.run_atomically` — its course when a transaction can be opened,
  `Work.run_atomically_of_crash` when the work is never given, and `Work.run_atomically_of_fault`
  when none can be opened.
-/

namespace RecordStore

namespace Manager

variable {context : Context} {handle : Handle}

theorem enter_of_inside (h : context.transaction = some handle) (manager : Manager)
    (surroundings : Surroundings) (database : Database) :
    manager.enter surroundings context database = (.ok context, database) := by
  cases manager <;> simp [enter, h]

theorem leave_of_inside (h : context.transaction = some handle) (backend : Backend)
    (inner : Context) (outcome : Outcome) (database : Database) :
    (transactional backend).leave context inner outcome database =
      match outcome with
      | .failed e => (.failed e, database.mark handle)
      | outcome => (outcome, database) := by
  cases outcome <;> simp [leave, h]

end Manager

namespace Work

variable {σ : Type} {context : Context} {handle : Handle}

theorem eq_crash {work : Work σ} {message : String} (crashes : work.crash? = some message) :
    work = crash message := by
  cases work with
  | crash other => exact congrArg crash (Option.some.inj crashes)
  | _ => exact nomatch crashes

/-- A program that panics before it has given its work does nothing else. -/
theorem run_of_crash {work : Work σ} {message : String} (crashes : work.crash? = some message)
    (manager : Manager) (surroundings : Surroundings) (own : σ) (database : Database) :
    work.run manager surroundings own database = (.panicked message, own, database) := by
  rw [eq_crash crashes, run]

section Begun

variable {manager : Manager} {surroundings : Surroundings} {inner : Context}
  {body : Context → Work σ} {next : Except StoreError Unit → Work σ} {database begun : Database}

/-- A unit that has begun and whose work is never given does not come to its end. -/
theorem run_unit_of_crash (entered : manager.enter surroundings context database = (.ok inner, begun))
    {message : String} (crashes : (body inner).crash? = some message) (own : σ) :
    (unit context body next).run manager surroundings own database =
      (.panicked message, own, begun) := by
  rw [run, entered]
  simp only [crashes]

/-- A unit that has begun and whose work is given. -/
theorem run_unit_of_steady
    (entered : manager.enter surroundings context database = (.ok inner, begun))
    (steady : (body inner).crash? = none) (own : σ) :
    (unit context body next).run manager surroundings own database =
      let worked := (body inner).run manager surroundings own begun
      match manager.leave context inner worked.1 worked.2.2 with
      | (.done, after) => (next (.ok ())).run manager surroundings worked.2.1 after
      | (.failed e, after) => (next (.error e)).run manager surroundings worked.2.1 after
      | (.panicked message, after) => (.panicked message, worked.2.1, after) := by
  rw [run, entered]
  dsimp only
  generalize (body inner).crash? = crash at steady ⊢
  subst steady
  rfl

end Begun

/-- A unit inside of a transaction marks it if its work fails. -/
theorem run_unit_of_inside (h : context.transaction = some handle) (backend : Backend)
    (surroundings : Surroundings) (body : Context → Work σ)
    (next : Except StoreError Unit → Work σ) (own : σ) (database : Database) :
    (unit context body next).run (.transactional backend) surroundings own database =
      match (body context).run (.transactional backend) surroundings own database with
      | (.done, own, after) => (next (.ok ())).run (.transactional backend) surroundings own after
      | (.failed e, own, after) =>
        (next (.error e)).run (.transactional backend) surroundings own (after.mark handle)
      | (.panicked message, own, after) => (.panicked message, own, after) := by
  have entered := Manager.enter_of_inside h (.transactional backend) surroundings database
  cases crashes : (body context).crash? with
  | some message =>
    -- inside of a transaction such a panic is one like others
    rw [run_unit_of_crash entered crashes, run_of_crash crashes]
  | none =>
    rw [run_unit_of_steady entered crashes]
    simp only [Manager.leave_of_inside h]
    generalize (body context).run _ _ _ _ = ended
    obtain ⟨outcome, own, after⟩ := ended
    cases outcome <;> rfl

/-- Without transactions a unit is nothing but its work. -/
theorem run_unit_direct (surroundings : Surroundings) (context : Context)
    (body : Context → Work σ) (next : Except StoreError Unit → Work σ) (own : σ)
    (database : Database) :
    (unit context body next).run .direct surroundings own database =
      match (body context).run .direct surroundings own database with
      | (.done, own, after) => (next (.ok ())).run .direct surroundings own after
      | (.failed e, own, after) => (next (.error e)).run .direct surroundings own after
      | (.panicked message, own, after) => (.panicked message, own, after) := by
  have entered : Manager.direct.enter surroundings context database = (.ok context, database) := rfl
  cases crashes : (body context).crash? with
  | some message => rw [run_unit_of_crash entered crashes, run_of_crash crashes]
  | none =>
    rw [run_unit_of_steady entered crashes]
    simp only [Manager.leave]
    generalize (body context).run _ _ _ _ = ended
    obtain ⟨outcome, own, after⟩ := ended
    cases outcome <;> rfl

end Work

/-! ### Opening a transaction -/

namespace Database

/-- The handle of the transaction that is opened next. -/
def nextHandle (database : Database) : Handle := ⟨database.transactions.length⟩

/-- The database after a transaction has been opened. -/
def begun (database : Database) (surroundings : Surroundings) : Database :=
  { database with
    calls := { database.calls with opened := database.calls.opened + 1 }
    transactions := database.transactions ++
      [⟨surroundings.transactionId database.nextHandle.number, memoryBackend, some [], false⟩] }

theorem openTransaction_of_opens {backend : Backend} (opens : backend.openFault = none)
    (database : Database) (surroundings : Surroundings) :
    database.openTransaction surroundings backend =
      (.ok database.nextHandle, database.begun surroundings) := by
  simp only [openTransaction, opens]
  rfl

/-- The state of the transaction that has just been opened. -/
theorem transaction?_begun (database : Database) (surroundings : Surroundings) :
    (database.begun surroundings).transaction? database.nextHandle =
      some ⟨surroundings.transactionId database.nextHandle.number, memoryBackend, some [],
        false⟩ := by
  simp [begun, transaction?, nextHandle]

end Database

/-- Surroundings whose clock ticks once a call, and which number everything. -/
def Surroundings.counting : Surroundings := ⟨fun n => ⟨.ofSeconds n, toString n, .byId⟩, toString⟩

/-! ### The outermost unit -/

namespace Work

variable {σ : Type}

/-- A unit of work whose answer is the end of the work. -/
def atomically (context : Context) (body : Context → Work σ) : Work σ :=
  unit context body fun
    | .ok () => done
    | .error e => fail e

/-- Closing a transaction is the end of a panic. -/
theorem close_ne_panicked (backend : Backend) (handle : Handle) (outcome : Outcome)
    (database : Database) (message : String) :
    (Manager.close backend handle outcome database).1 ≠ .panicked message := by
  unfold Manager.close
  cases outcome with
  | done =>
    simp only
    split
    · nofun
    · split <;> nofun
  | failed | panicked => nofun

/-- The outermost unit begins by opening a transaction. -/
theorem enter_of_opens {context : Context} {backend : Backend}
    (outside : context.transaction = none) (opens : backend.openFault = none)
    (surroundings : Surroundings) (database : Database) :
    Manager.enter (.transactional backend) surroundings context database =
      (.ok (context.within database.nextHandle), database.begun surroundings) := by
  simp only [Manager.enter, outside, Database.openTransaction_of_opens opens]

/-- The outermost unit runs its work in a transaction of its own and then closes it. -/
theorem run_atomically {context : Context} {backend : Backend}
    (outside : context.transaction = none) (opens : backend.openFault = none)
    (surroundings : Surroundings) {body : Context → Work σ} (own : σ) (database : Database)
    (steady : (body (context.within database.nextHandle)).crash? = none) :
    (atomically context body).run (.transactional backend) surroundings own database =
      let worked := (body (context.within database.nextHandle)).run (.transactional backend)
        surroundings own (database.begun surroundings)
      let closed := Manager.close backend database.nextHandle worked.1 worked.2.2
      (closed.1, worked.2.1, closed.2) := by
  rw [atomically, run_unit_of_steady (enter_of_opens outside opens surroundings database) steady]
  simp only [Manager.leave, outside, Context.within]
  generalize (body _).run _ _ _ _ = worked
  have settled := close_ne_panicked backend database.nextHandle worked.1 worked.2.2
  rcases hc : Manager.close backend database.nextHandle worked.1 worked.2.2 with ⟨answer, after⟩
  rw [hc] at settled
  cases answer with
  | done => rfl
  | failed e => rfl
  | panicked message => exact absurd rfl (settled message)

/-- A program that panics before it has given its work leaves the transaction of its unit open. -/
theorem run_atomically_of_crash {context : Context} {backend : Backend}
    (outside : context.transaction = none) (opens : backend.openFault = none)
    (surroundings : Surroundings) {body : Context → Work σ} (own : σ) (database : Database)
    {message : String} (crashes : (body (context.within database.nextHandle)).crash? = some message) :
    (atomically context body).run (.transactional backend) surroundings own database =
      (.panicked message, own, database.begun surroundings) :=
  run_unit_of_crash (enter_of_opens outside opens surroundings database) crashes own

/-- Where no transaction can be opened the work is not begun. -/
theorem run_atomically_of_fault {context : Context} {backend : Backend} {e : StoreError}
    (outside : context.transaction = none) (fault : backend.openFault = some e)
    (surroundings : Surroundings) (body : Context → Work σ) (own : σ) (database : Database) :
    (atomically context body).run (.transactional backend) surroundings own database =
      (.failed (.transaction (.beginFailed e.message)), own,
        { database with
          calls := { database.calls with opened := database.calls.opened + 1 } }) := by
  rw [atomically, run]
  simp only [Manager.enter, outside, Database.openTransaction, fault]
  rfl

end Work

end RecordStore
