import RecordStore.Proofs.Transaction.Unit

/-!
# The protocol between units of work and the backend

A backend is asked to open, to commit and to roll back by the outermost unit alone. Whether it is
asked to commit depends on what has happened inside: the work must be done, no nested unit may have
failed, also not one whose failure was swallowed, and no step may have forbidden the commit.

* `Work.incidents` — what happens to the transaction while work is done in it;
* `Work.run_carries` — the mark of the transaction records exactly the incidents that forbid its
  commit;
* `Work.Course` — the protocol, and `Work.atomically_keeps_protocol`;
* `Work.crash_leaves_open` — what becomes of it if a program panics before it has given its work.
-/

namespace RecordStore

/-! ### Incidents -/

/-- What can bear on the end of a transaction while work is done in it. -/
inductive Incident where
  /-- A nested unit of work has given its answer. -/
  | answered (reply : Except StoreError Unit)
  /-- A step has forbidden the commit of the transaction of its context. -/
  | marked (transaction : Option Handle)

/-- Whether an incident forbids the commit of a transaction. -/
def Incident.forbids (handle : Handle) : Incident → Bool
  | answered (.ok _) => false
  | answered (.error _) => true
  | marked transaction => transaction == some handle

namespace Work

variable {σ : Type} {handle : Handle}

/-- The incidents of a run, in their order. -/
def incidents (manager : Manager) (surroundings : Surroundings) :
    Work σ → σ → Database → List Incident
  | done, _, _ => []
  | fail _, _, _ => []
  | panic _, _, _ => []
  | crash _, _, _ => []
  | note change next, own, database =>
    (next (change own)).incidents manager surroundings (change own) database
  | call context operation next, own, database =>
    let (reply, database) := operation.run surroundings context database
    (next reply).incidents manager surroundings own database
  | look context next, own, database =>
    (next (context.transaction.bind database.transaction?)).incidents manager surroundings own
      database
  | mark context next, own, database =>
    let marked := match context.transaction with
      | none => database
      | some handle => database.mark handle
    .marked context.transaction :: next.incidents manager surroundings own marked
  | foreign backend next, own, database =>
    let (database, handle) := database.adopt surroundings backend none
    (next handle).incidents manager surroundings own database
  | unit context body next, own, database =>
    match manager.enter surroundings context database with
    | (.error e, database) =>
      .answered (.error e) :: (next (.error e)).incidents manager surroundings own database
    | (.ok inner, database) =>
      match (body inner).crash? with
      | some _ => []
      | none =>
        let (outcome, own', worked) := (body inner).run manager surroundings own database
        (body inner).incidents manager surroundings own database ++
          match manager.leave context inner outcome worked with
          | (.done, after) =>
            .answered (.ok ()) :: (next (.ok ())).incidents manager surroundings own' after
          | (.failed e, after) =>
            .answered (.error e) :: (next (.error e)).incidents manager surroundings own' after
          | (.panicked _, _) => []

/-- Work whose nested units all carry a handle. Its other steps may be made in any context. -/
def NestsIn (handle : Handle) : Work σ → Prop
  | done => True
  | fail _ => True
  | panic _ => True
  | crash _ => True
  | note _ next => ∀ own, (next own).NestsIn handle
  | call _ _ next => ∀ reply, (next reply).NestsIn handle
  | look _ next => ∀ transaction, (next transaction).NestsIn handle
  | mark _ next => next.NestsIn handle
  | foreign _ next => ∀ handle', (next handle').NestsIn handle
  | unit context body next =>
    context.transaction = some handle ∧ (body context).NestsIn handle ∧
      ∀ reply, (next reply).NestsIn handle

theorem incidents_unit_of_inside {context : Context} (h : context.transaction = some handle)
    (backend : Backend) (surroundings : Surroundings) (body : Context → Work σ)
    (next : Except StoreError Unit → Work σ) (own : σ) (database : Database) :
    (unit context body next).incidents (.transactional backend) surroundings own database =
      (body context).incidents (.transactional backend) surroundings own database ++
        match (body context).run (.transactional backend) surroundings own database with
        | (.done, own, after) =>
          .answered (.ok ()) ::
            (next (.ok ())).incidents (.transactional backend) surroundings own after
        | (.failed e, own, after) =>
          .answered (.error e) ::
            (next (.error e)).incidents (.transactional backend) surroundings own
              (after.mark handle)
        | (.panicked _, _, _) => [] := by
  rw [incidents, Manager.enter_of_inside h]
  simp only [Manager.leave_of_inside h]
  cases crashes : (body context).crash? with
  | some message =>
    obtain same := eq_crash crashes
    simp only [same, incidents, run, List.append_nil]
  | none =>
    generalize (body context).run _ _ _ _ = ended
    obtain ⟨outcome, own, after⟩ := ended
    cases outcome <;> rfl

end Work

/-! ### The mark of a transaction -/

namespace Database

theorem calls_rollBack (database : Database) (backend : Backend) (handle : Handle) :
    (database.rollBack backend handle).calls =
      { database.calls with rolledBack := database.calls.rolledBack + 1 } := by
  unfold rollBack
  cases backend.rollbackFault <;> rfl

theorem calls_commit (database : Database) (backend : Backend) (handle : Handle) :
    (database.commit backend handle).2.calls =
      { database.calls with committed := database.calls.committed + 1 } := by
  unfold commit
  cases backend.commitFault with
  | some e => rfl
  | none => cases database.checkHandle handle <;> rfl

theorem fst_commit (database : Database) (backend : Backend) {handle : Handle}
    (ours : database.checkHandle handle = .ok ()) :
    (database.commit backend handle).1 = backend.commitFault.elim (.ok ()) .error := by
  unfold commit
  rw [ours]
  cases backend.commitFault <;> rfl

/-- The identifier of a transaction of this backend, and whether it must not be committed. -/
def standing (database : Database) (handle : Handle) : Option (String × Bool) :=
  (database.transaction? handle).bind fun t => t.journal.map fun _ => (t.id, t.rollbackOnly)

theorem standing_eq_some_iff {database : Database} {handle : Handle} {id : String} {mark : Bool} :
    database.standing handle = some (id, mark) ↔
      ∃ t, database.transaction? handle = some t ∧ t.journal.isSome = true ∧ t.id = id ∧
        t.rollbackOnly = mark := by
  simp only [standing, Option.bind_eq_some_iff, Option.map_eq_some_iff, Option.isSome_iff_exists,
    Prod.mk.injEq]
  constructor
  · rintro ⟨t, found, journal, journaled, id, mark⟩
    exact ⟨t, found, ⟨journal, journaled⟩, id, mark⟩
  · rintro ⟨t, found, ⟨journal, journaled⟩, id, mark⟩
    exact ⟨t, found, journal, journaled, id, mark⟩

/-- From one state to another the backend is not asked anything, and the commit of a transaction
gets forbidden if `forbidden` says so. -/
structure Carries (handle : Handle) (forbidden : Bool) (before after : Database) : Prop where
  calls : after.calls = before.calls
  standing : ∀ id mark, before.standing handle = some (id, mark) →
    after.standing handle = some (id, mark || forbidden)

namespace Carries

variable {handle : Handle} {a b : Bool} {before middle after : Database}

theorem refl (handle : Handle) (database : Database) : Carries handle false database database :=
  ⟨rfl, fun id mark h => by rw [h, Bool.or_false]⟩

theorem trans (h : Carries handle a before middle) (h' : Carries handle b middle after) :
    Carries handle (a || b) before after := by
  refine ⟨h'.calls.trans h.calls, fun id mark found => ?_⟩
  rw [h'.standing id _ (h.standing id mark found), Bool.or_assoc]

theorem mark (handle other : Handle) (database : Database) :
    Carries handle (other == handle) database (database.mark other) := by
  refine ⟨rfl, fun id mark found => ?_⟩
  obtain ⟨t, ht, journaled, rfl, rfl⟩ := standing_eq_some_iff.1 found
  refine standing_eq_some_iff.2 ⟨if other = handle then { t with rollbackOnly := true } else t, ?_⟩
  rw [Database.mark, transaction?_modify, ht]
  by_cases h : other = handle <;> simp [h, journaled]

theorem adopt (handle : Handle) (database : Database) (surroundings : Surroundings)
    (backend : String) :
    Carries handle false database (database.adopt surroundings backend none).1 := by
  refine ⟨rfl, fun id mark found => ?_⟩
  obtain ⟨t, ht, -⟩ := standing_eq_some_iff.1 found
  -- a new transaction comes behind those that are known
  have known : handle.number < database.transactions.length :=
    (List.getElem?_eq_some_iff.1 ht).1
  rw [Bool.or_false, ← found]
  simp [Database.standing, Database.adopt, transaction?, List.getElem?_append_left known]

theorem settle {α : Type} (handle : Handle) (database : Database) (context : Context)
    (effect : Effect α) : Carries handle false database (database.settle context effect) := by
  refine ⟨database.calls_settle context effect, fun id mark found => ?_⟩
  obtain ⟨t, ht, journaled, rfl, rfl⟩ := standing_eq_some_iff.1 found
  rw [Bool.or_false, standing_eq_some_iff, transaction?_settle, ht]
  by_cases h : context.transaction = some handle <;> simp [h, journaled]

/-- A call is nothing that bears on the end of a transaction. -/
theorem run (handle : Handle) (database : Database) (surroundings : Surroundings)
    (context : Context) (operation : Operation) :
    Carries handle false database (operation.run surroundings context database).2 := by
  have moved : Carries handle false database { database with moments := database.moments + 1 } :=
    ⟨rfl, fun id mark found => by rw [Bool.or_false]; exact found⟩
  rw [Operation.run]
  rcases Operation.runAt_cases (surroundings.moment database.moments) context
    { database with moments := database.moments + 1 } operation with ⟨e, h⟩ | h
  · rw [h]
    exact moved
  · rw [h]
    exact moved.trans (settle handle _ context _)

end Carries

end Database

namespace Work

variable {σ : Type} {handle : Handle}

/-- Inside of a transaction the backend is not asked anything, and the mark records exactly the
incidents that forbid the commit. -/
theorem run_carries {work : Work σ} (nested : work.NestsIn handle) (backend : Backend)
    (surroundings : Surroundings) (own : σ) (database : Database) :
    Database.Carries handle
      ((work.incidents (.transactional backend) surroundings own database).any
        (·.forbids handle))
      database (work.run (.transactional backend) surroundings own database).2.2 := by
  induction work generalizing own database with
  | done | fail | panic | crash => exact .refl handle database
  | note change next ih => exact ih _ (nested _) _ database
  | call context operation next ih =>
    exact (Database.Carries.run handle database surroundings context operation).trans
      (ih _ (nested _) own _)
  | look context next ih => exact ih _ (nested _) own database
  | foreign name next ih =>
    exact (Database.Carries.adopt handle database surroundings name).trans (ih _ (nested _) own _)
  | mark context next ih =>
    rw [run, incidents, List.any_cons, Incident.forbids]
    refine Database.Carries.trans ?_ (ih nested own _)
    cases context.transaction with
    | none => exact .refl handle database
    | some other => exact .mark handle other database
  | unit context body next ihBody ihNext =>
    obtain ⟨here, nestedBody, nestedNext⟩ := nested
    have worked := ihBody context nestedBody own database
    rw [run_unit_of_inside here, incidents_unit_of_inside here, List.any_append]
    generalize (body context).run _ _ _ _ = ended at worked
    obtain ⟨outcome, own, after⟩ := ended
    cases outcome with
    | done => exact worked.trans (ihNext _ (nestedNext _) own after)
    | failed e =>
      have marked := Database.Carries.mark handle handle after
      exact worked.trans ((by simpa using marked : Database.Carries handle true _ _).trans
        (ihNext _ (nestedNext _) own _))
    | panicked message => exact worked.trans (.refl handle after)

/-! ### The protocol -/

/-- The course of a unit in a transaction with the identifier `id`: `worked` is how its work ended,
and `ended` how the unit itself did. -/
structure Course (backend : Backend) (id : String) (forbidden : Prop) (before : Calls)
    (worked ended : Outcome × σ × Database) : Prop where
  /-- Up to the end of the work the backend has been asked to open the transaction, once. -/
  opened : worked.2.2.calls = { before with opened := before.opened + 1 }
  /-- The backend is asked to commit, once, if the work is done and nothing forbids it, -/
  committed : worked.1 = .done → ¬ forbidden → ended.2.2.calls =
    { before with opened := before.opened + 1, committed := before.committed + 1 }
  /-- and else to roll back, once. -/
  rolledBack : ¬ (worked.1 = .done ∧ ¬ forbidden) → ended.2.2.calls =
    { before with opened := before.opened + 1, rolledBack := before.rolledBack + 1 }
  /-- The unit is done exactly if the commit succeeds. -/
  done_iff : ended.1 = .done ↔ worked.1 = .done ∧ ¬ forbidden ∧ backend.commitFault = none
  commitFailed : worked.1 = .done → ¬ forbidden → ∀ e, backend.commitFault = some e →
    ended.1 = .failed (.transaction (.commitFailed id e.message))
  rollbackOnly : worked.1 = .done → forbidden → ended.1 = .failed (.transaction (.rollbackOnly id))
  failed : ∀ cause, worked.1 = .failed cause →
    ∃ e, ended.1 = .failed e ∧ e = .transaction (.rolledBack id cause) ∧
      e.rootCause = cause.rootCause
  panicked : ∀ message, worked.1 = .panicked message →
    ended.1 = .failed (.transaction (.aborted id message))
  /-- What the work has noted is not touched. -/
  own : ended.2.1 = worked.2.1

/-- Work that is not done is always rolled back. -/
theorem course_of_unfinished {backend : Backend} {id : String} {forbidden : Prop} {before : Calls}
    {worked ended : Outcome × σ × Database}
    (opened : worked.2.2.calls = { before with opened := before.opened + 1 })
    (unfinished : worked.1 ≠ .done) (refused : ended.1 ≠ .done)
    (undone : ended.2.2.calls =
      { before with opened := before.opened + 1, rolledBack := before.rolledBack + 1 })
    (failed : ∀ cause, worked.1 = .failed cause →
      ended.1 = .failed (.transaction (.rolledBack id cause)))
    (panicked : ∀ message, worked.1 = .panicked message →
      ended.1 = .failed (.transaction (.aborted id message)))
    (own : ended.2.1 = worked.2.1) : Course backend id forbidden before worked ended where
  opened := opened
  committed done := absurd done unfinished
  rolledBack _ := undone
  done_iff := ⟨fun done => absurd done refused, fun h => absurd h.1 unfinished⟩
  commitFailed done := absurd done unfinished
  rollbackOnly done := absurd done unfinished
  failed cause h := ⟨_, failed cause h, rfl, rfl⟩
  panicked := panicked
  own := own

/-- Closing a transaction keeps to the protocol if the mark of the transaction is right. -/
theorem course_close (backend : Backend) {handle : Handle} {id : String} {forbidden : Bool}
    {before : Calls} {worked : Outcome × σ × Database}
    (opened : worked.2.2.calls = { before with opened := before.opened + 1 })
    (standing : worked.2.2.standing handle = some (id, forbidden)) :
    Course backend id (forbidden = true) before worked
      (let closed := Manager.close backend handle worked.1 worked.2.2
      (closed.1, worked.2.1, closed.2)) := by
  obtain ⟨outcome, own, database⟩ := worked
  obtain ⟨t, found, journaled, rfl, rfl⟩ := Database.standing_eq_some_iff.1 standing
  have ours : database.checkHandle handle = .ok () := by
    simp [Database.checkHandle, found, journaled]
  have hid : database.transactionId handle = t.id := by simp [Database.transactionId, found]
  have hmark : database.isRollbackOnly handle = t.rollbackOnly := by
    simp [Database.isRollbackOnly, found]
  have counted : database.calls = { before with opened := before.opened + 1 } := opened
  have undone : (database.rollBack backend handle).calls =
      { before with opened := before.opened + 1, rolledBack := before.rolledBack + 1 } := by
    rw [Database.calls_rollBack, counted]
  have asked : (database.commit backend handle).2.calls =
      { before with opened := before.opened + 1, committed := before.committed + 1 } := by
    rw [Database.calls_commit, counted]
  simp only [Manager.close, hid, hmark]
  cases outcome with
  | failed cause =>
    refine course_of_unfinished opened nofun nofun undone ?_ nofun rfl
    rintro _ ⟨⟩
    rfl
  | panicked message =>
    refine course_of_unfinished opened nofun nofun undone nofun ?_ rfl
    rintro _ ⟨⟩
    rfl
  | done =>
    -- the mark decides between commit and rollback
    cases t.rollbackOnly with
    | true =>
      exact
        { opened
          committed := fun _ free => absurd rfl free
          rolledBack := fun _ => undone
          done_iff := ⟨nofun, fun h => absurd rfl h.2.1⟩
          commitFailed := fun _ free => absurd rfl free
          rollbackOnly := fun _ _ => rfl
          failed := nofun
          panicked := nofun
          own := rfl }
    | false =>
      have answer := database.fst_commit backend ours
      generalize database.commit backend handle = commit at asked answer
      obtain ⟨reply, after⟩ := commit
      cases refused : backend.commitFault with
      | none =>
        obtain rfl : reply = .ok () := by simpa [refused] using answer
        exact
          { opened
            committed := fun _ _ => asked
            rolledBack := fun h => absurd ⟨rfl, nofun⟩ h
            done_iff := ⟨fun _ => ⟨rfl, nofun, refused⟩, fun _ => rfl⟩
            commitFailed := fun _ _ _ h => nomatch refused.symm.trans h
            rollbackOnly := nofun
            failed := nofun
            panicked := nofun
            own := rfl }
      | some e =>
        obtain rfl : reply = .error e := by simpa [refused] using answer
        exact
          { opened
            committed := fun _ _ => asked
            rolledBack := fun h => absurd ⟨rfl, nofun⟩ h
            done_iff := ⟨nofun, fun h => nomatch refused.symm.trans h.2.2⟩
            commitFailed := fun _ _ e' h => by
              obtain rfl : e = e' := Option.some.inj (refused.symm.trans h)
              rfl
            rollbackOnly := nofun
            failed := nofun
            panicked := nofun
            own := rfl }

/-- Units of work keep to the protocol, whatever their work does and whatever the backend refuses:
if no transaction can be opened the work is not begun, and else the unit takes its course. A program
that panics before it has given the work falls out of it: the transaction has been opened, and is
neither committed nor rolled back. -/
theorem atomically_keeps_protocol {context : Context} (outside : context.transaction = none)
    {body : Context → Work σ} (nested : ∀ handle, (body (context.within handle)).NestsIn handle)
    (backend : Backend) (surroundings : Surroundings) (own : σ) (database : Database) :
    let ended := (atomically context body).run (.transactional backend) surroundings own database
    let handle := database.nextHandle
    let work := body (context.within handle)
    let begun := database.begun surroundings
    match backend.openFault, work.crash? with
    | some e, _ =>
      ended = (.failed (.transaction (.beginFailed e.message)), own,
        { database with calls := { database.calls with opened := database.calls.opened + 1 } })
    | none, some message => ended = (.panicked message, own, begun)
    | none, none =>
      Course backend (surroundings.transactionId handle.number)
        (∃ incident ∈ work.incidents (.transactional backend) surroundings own begun,
          incident.forbids handle)
        database.calls (work.run (.transactional backend) surroundings own begun) ended := by
  intro ended handle work begun
  cases opens : backend.openFault with
  | some e => exact run_atomically_of_fault outside opens surroundings body own database
  | none =>
    cases steady : work.crash? with
    | some message => exact run_atomically_of_crash outside opens surroundings own database steady
    | none =>
      -- a new transaction has no mark, so that its mark is the one set by the incidents
      have carries := run_carries (nested handle) backend surroundings own begun
      have fresh : begun.standing handle =
          some (surroundings.transactionId handle.number, false) :=
        Database.standing_eq_some_iff.2
          ⟨_, database.transaction?_begun surroundings, rfl, rfl, rfl⟩
      have standing := carries.standing _ _ fresh
      rw [Bool.false_or] at standing
      have course := course_close backend carries.calls standing
      rw [List.any_eq_true] at course
      have same : ended = _ := run_atomically outside opens surroundings own database steady
      rw [same]
      exact course

-- a unit is not committed either if a step forbids it, without a nested unit that fails
example :
    let ended := (atomically (.new ⟨"acme"⟩) fun inner => mark inner done).run
      (.transactional .reliable) .counting () .empty
    ended.1 = .failed (.transaction (.rollbackOnly "0")) ∧ ended.2.2.calls = ⟨1, 0, 1⟩ :=
  ⟨rfl, rfl⟩

/-- A program that panics before it has given its work leaves a transaction that is open for ever,
although nothing was wrong with the backend. The panic gets out, as if there were no unit. -/
theorem crash_leaves_open :
    let ended := (atomically (.new ⟨"acme"⟩) fun _ => crash "boom").run (.transactional .reliable)
      .counting () .empty
    ended.1 = .panicked "boom" ∧ ended.2.2.calls = ⟨1, 0, 0⟩ := ⟨rfl, rfl⟩

/-- Work in which a nested unit fails, two levels down, and nobody minds. -/
def forgiving (context : Context) : Work Unit :=
  unit context
    (fun inner =>
      unit inner (fun _ => fail (.notFound "orders" "o-1")) fun _ => done)
    fun _ => done

/-- The failure that nobody minds is found in the incidents, and the unit is rolled back. -/
theorem forgiving_rolls_back :
    (Context.new ⟨"acme"⟩).transaction = none ∧
      (∀ handle, (forgiving ((Context.new ⟨"acme"⟩).within handle)).NestsIn handle) ∧
      let ended :=
        (atomically (.new ⟨"acme"⟩) forgiving).run (.transactional .reliable) .counting () .empty
      ended.1 = .failed (.transaction (.rollbackOnly "0")) ∧ ended.2.2.calls = ⟨1, 0, 1⟩ := by
  have nested (handle : Handle) :
      (forgiving ((Context.new ⟨"acme"⟩).within handle)).NestsIn handle :=
    ⟨rfl, ⟨rfl, trivial, fun _ => trivial⟩, fun _ => trivial⟩
  have course : Course .reliable "0" _ _ _ _ :=
    atomically_keeps_protocol rfl nested .reliable .counting () .empty
  have forbidden : ∃ incident ∈ (forgiving ((Context.new ⟨"acme"⟩).within ⟨0⟩)).incidents
      (.transactional .reliable) .counting () (Database.empty.begun .counting),
      incident.forbids ⟨0⟩ := ⟨_, List.mem_cons_self, rfl⟩
  exact ⟨rfl, nested, course.rollbackOnly rfl forbidden,
    course.rolledBack fun h => h.2 forbidden⟩

end Work

end RecordStore
