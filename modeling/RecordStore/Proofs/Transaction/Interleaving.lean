import RecordStore.Proofs.Transaction.Journals

/-!
# Work among others

Between the steps of a piece of work others may use the same database. Each side names a transaction
by its place among those that the side itself has opened, so that what its program says does not
depend on how many the other side opens.

* `Shared` — a database, and who has opened which of its transactions;
* `Deed` — what others can do, with `Deed.unit_eq_spoil` for units of guests, and `Shared.after` —
  what has become of the database then;
* `Work.runAmong` — running work among the deeds of others, which gives a `Session`;
* `Work.runAmong_alone` — without others this is running the work.
-/

namespace RecordStore

/-- A database that is shared: the handles of the transactions that a tenant has opened, and of
those that others have opened, each in the order of opening. -/
structure Shared where
  database : Database
  own : List Handle
  others : List Handle

namespace Database

/-- The transaction of a name, which is a place among known handles. A place that is not taken yet
stands for a transaction to come. -/
def meant (database : Database) (known : List Handle) (name : Handle) : Handle :=
  known[name.number]?.getD ⟨database.transactions.length + (name.number - known.length)⟩

variable {known : List Handle} {name : Handle}

theorem meant_of_lt (h : name.number < known.length) (database : Database) :
    database.meant known name = known[name.number] := by
  rw [meant, List.getElem?_eq_getElem h]
  rfl

theorem meant_of_le (h : known.length ≤ name.number) (database : Database) :
    database.meant known name =
      ⟨database.transactions.length + (name.number - known.length)⟩ := by
  rw [meant, List.getElem?_eq_none h]
  rfl

/-- Of the handles of a side one is meant, or one to come. -/
theorem meant_cases (database : Database) (known : List Handle) (name : Handle) :
    database.meant known name ∈ known ∨
      database.transactions.length ≤ (database.meant known name).number := by
  rcases Nat.lt_or_ge name.number known.length with here | future
  · exact .inl (database.meant_of_lt here ▸ List.getElem_mem here)
  · exact .inr (database.meant_of_le future ▸ Nat.le_add_right _ _)

/-- Different names mean different transactions. -/
theorem meant_inj {database : Database} (distinct : known.Nodup)
    (bounded : ∀ handle ∈ known, handle.number < database.transactions.length) {other : Handle} :
    database.meant known name = database.meant known other ↔ name = other := by
  refine ⟨fun same => ?_, fun same => same ▸ rfl⟩
  have mem_iff (name : Handle) :
      database.meant known name ∈ known ↔ name.number < known.length := by
    refine ⟨fun mem => Nat.lt_of_not_le fun future => ?_, fun here => ?_⟩
    · have less := bounded _ mem
      rw [database.meant_of_le future] at less
      exact absurd less (Nat.not_lt.2 (Nat.le_add_right _ _))
    · exact database.meant_of_lt here ▸ List.getElem_mem here
  -- both are known, or neither is
  have sides : name.number < known.length ↔ other.number < known.length := by
    rw [← mem_iff, ← mem_iff, same]
  by_cases here : name.number < known.length
  · rw [database.meant_of_lt here, database.meant_of_lt (sides.1 here)] at same
    exact congrArg Handle.mk ((List.getElem_inj distinct).1 same)
  · have future := Nat.le_of_not_lt here
    have future' := Nat.le_of_not_lt fun there => here (sides.2 there)
    rw [database.meant_of_le future, database.meant_of_le future', Handle.mk.injEq] at same
    have numbers : name.number = other.number := by omega
    exact congrArg Handle.mk numbers

end Database

/-- A context whose transaction is a name, with the transaction that is meant. -/
def Context.among (context : Context) (database : Database) (known : List Handle) : Context :=
  { context with transaction := context.transaction.map (database.meant known) }

namespace Shared

/-- The transaction that the tenant means by a name. -/
def handle (shared : Shared) (name : Handle) : Handle := shared.database.meant shared.own name

/-- The state of the transaction that the tenant means by a name. -/
def transaction? (shared : Shared) (name : Handle) : Option Transaction :=
  shared.database.transaction? (shared.handle name)

/-- A context of the tenant. -/
def inner (shared : Shared) (context : Context) : Context :=
  context.among shared.database shared.own

/-- A context of others. -/
def outer (shared : Shared) (context : Context) : Context :=
  context.among shared.database shared.others

/-! ### The steps of the tenant -/

/-- A call. -/
def call (shared : Shared) (surroundings : Surroundings) (context : Context)
    (operation : Operation) : Except StoreError operation.Reply × Shared :=
  let (reply, database) := operation.run surroundings (shared.inner context) shared.database
  (reply, { shared with database })

/-- Forbid that the transaction of a context is committed. -/
def mark (shared : Shared) (context : Context) : Shared :=
  match context.transaction with
  | none => shared
  | some name => { shared with database := shared.database.mark (shared.handle name) }

/-- Learn of a transaction that another backend has opened. -/
def adopt (shared : Shared) (surroundings : Surroundings) (backend : String) : Shared :=
  let (database, handle) := shared.database.adopt surroundings backend none
  { shared with database, own := shared.own ++ [handle] }

/-- Begin a unit of work; a transaction that is opened for it gets the next name. -/
def enter (shared : Shared) (manager : Manager) (surroundings : Surroundings)
    (context : Context) : Except StoreError Context × Shared :=
  match manager.enter surroundings (shared.inner context) shared.database with
  | (.error e, database) => (.error e, { shared with database })
  | (.ok inside, database) =>
    match context.transaction, inside.transaction with
    | none, some handle =>
      (.ok (context.within ⟨shared.own.length⟩),
        { shared with database, own := shared.own ++ [handle] })
    | _, _ => (.ok context, { shared with database })

/-- End a unit of work. -/
def leave (shared : Shared) (manager : Manager) (context inside : Context) (outcome : Outcome) :
    Outcome × Shared :=
  let (outcome, database) :=
    manager.leave (shared.inner context) (shared.inner inside) outcome shared.database
  (outcome, { shared with database })

end Shared

namespace Shared

/-- A transaction has been opened for the tenant. -/
def opened (shared : Shared) (surroundings : Surroundings) : Shared :=
  { shared with
    database := shared.database.begun surroundings
    own := shared.own ++ [shared.database.nextHandle] }

variable (shared : Shared) (surroundings : Surroundings) {context : Context}

theorem enter_direct (context : Context) :
    shared.enter .direct surroundings context = (.ok context, shared) := by
  simp only [enter, Manager.enter]
  cases outside : context.transaction with
  | some name => rfl
  | none =>
    have same : (shared.inner context).transaction = none := by
      simp [inner, Context.among, outside]
    simp only [same]

theorem enter_of_inside {name : Handle} (inside : context.transaction = some name)
    (manager : Manager) : shared.enter manager surroundings context = (.ok context, shared) := by
  have meant : (shared.inner context).transaction = some (shared.handle name) := by
    simp [inner, Context.among, inside, handle]
  simp only [enter, Manager.enter_of_inside meant, inside]

theorem enter_of_fault {backend : Backend} {e : StoreError} (outside : context.transaction = none)
    (fault : backend.openFault = some e) :
    shared.enter (.transactional backend) surroundings context =
      (.error (.transaction (.beginFailed e.message)),
        let calls := { shared.database.calls with opened := shared.database.calls.opened + 1 }
        { shared with database := { shared.database with calls } }) := by
  simp [enter, Manager.enter, inner, Context.among, outside, Database.openTransaction, fault]

theorem enter_of_opens {backend : Backend} (outside : context.transaction = none)
    (opens : backend.openFault = none) :
    shared.enter (.transactional backend) surroundings context =
      (.ok (context.within ⟨shared.own.length⟩), shared.opened surroundings) := by
  simp [enter, Manager.enter, inner, Context.among, outside, Context.within, opened,
    Database.openTransaction_of_opens opens]

/-- A unit of work begins as it is, without a transaction that cannot be opened, or in a new one. -/
theorem enter_cases (manager : Manager) (context : Context) :
    shared.enter manager surroundings context = (.ok context, shared) ∨
      (∃ e calls, shared.enter manager surroundings context =
        (.error e, { shared with database := { shared.database with calls } })) ∨
      shared.enter manager surroundings context =
        (.ok (context.within ⟨shared.own.length⟩), shared.opened surroundings) := by
  cases manager with
  | direct => exact .inl (shared.enter_direct surroundings context)
  | transactional backend =>
    cases around : context.transaction with
    | some name => exact .inl (shared.enter_of_inside surroundings around _)
    | none =>
      cases opens : backend.openFault with
      | some e => exact .inr (.inl ⟨_, _, shared.enter_of_fault surroundings around opens⟩)
      | none => exact .inr (.inr (shared.enter_of_opens surroundings around opens))

theorem leave_of_inside {name : Handle} (around : context.transaction = some name)
    (backend : Backend) (inside : Context) (outcome : Outcome) :
    shared.leave (.transactional backend) context inside outcome =
      match outcome with
      | .failed e =>
        (.failed e, { shared with database := shared.database.mark (shared.handle name) })
      | outcome => (outcome, shared) := by
  have meant : (shared.inner context).transaction = some (shared.handle name) := by
    simp [inner, Context.among, around, handle]
  cases outcome <;> simp [leave, Manager.leave_of_inside meant]

theorem leave_of_outside {inside : Context} (around : context.transaction = none)
    (own : inside.transaction = none) (backend : Backend) (outcome : Outcome) :
    shared.leave (.transactional backend) context inside outcome = (outcome, shared) := by
  simp [leave, Manager.leave, inner, Context.among, around, own]

theorem leave_of_opened {inside : Context} {name : Handle} (around : context.transaction = none)
    (own : inside.transaction = some name) (backend : Backend) (outcome : Outcome) :
    shared.leave (.transactional backend) context inside outcome =
      let closed := Manager.close backend (shared.handle name) outcome shared.database
      (closed.1, { shared with database := closed.2 }) := by
  simp [leave, Manager.leave, inner, Context.among, around, own, handle]

end Shared

/-! ### The steps of others -/

/-- A step of others. They end and mark the transactions that they have opened, and as guests they
can make calls and units of work in those of the tenant. -/
inductive Deed where
  /-- A call in a transaction of their own, or in none. -/
  | call (surroundings : Surroundings) (context : Context) (operation : Operation)
  /-- A call in a transaction of the tenant, or in none. -/
  | join (surroundings : Surroundings) (context : Context) (operation : Operation)
  | openTransaction (surroundings : Surroundings) (backend : Backend)
  | adopt (surroundings : Surroundings) (backend : String)
  | mark (place : Nat)
  | commit (backend : Backend) (place : Nat)
  | rollBack (backend : Backend) (place : Nat)
  /-- A unit of work that fails in a transaction of the tenant. -/
  | spoil (place : Nat)

namespace Deed

/-- A deed on a shared database; without the transaction that is named nothing is done. -/
def run : Deed → Shared → Shared
  | call surroundings context operation, shared =>
    { shared with
      database := (operation.run surroundings (shared.outer context) shared.database).2 }
  | join surroundings context operation, shared =>
    { shared with
      database := (operation.run surroundings (shared.inner context) shared.database).2 }
  | openTransaction surroundings backend, shared =>
    match shared.database.openTransaction surroundings backend with
    | (.error _, database) => { shared with database }
    | (.ok handle, database) => { shared with database, others := shared.others ++ [handle] }
  | adopt surroundings backend, shared =>
    let (database, handle) := shared.database.adopt surroundings backend none
    { shared with database, others := shared.others ++ [handle] }
  | mark place, shared =>
    match shared.others[place]? with
    | none => shared
    | some handle => { shared with database := shared.database.mark handle }
  | commit backend place, shared =>
    match shared.others[place]? with
    | none => shared
    | some handle => { shared with database := (shared.database.commit backend handle).2 }
  | rollBack backend place, shared =>
    match shared.others[place]? with
    | none => shared
    | some handle => { shared with database := shared.database.rollBack backend handle }
  | spoil place, shared =>
    match shared.own[place]? with
    | none => shared
    | some handle => { shared with database := shared.database.mark handle }

/-- The deed is that of somebody else, which spoils nothing: its call is made on the tables of
another tenant. -/
def Spares (tenant : Tenant) : Deed → Prop
  | call _ context _ => context.tenant ≠ tenant
  | join _ context _ => context.tenant ≠ tenant
  | spoil _ => False
  | _ => True

/-- The deed is a call of a guest in a transaction of the tenant. -/
def Visits (guest : Tenant) : Deed → Prop
  | join _ context _ => context.tenant = guest
  | _ => False

/-- A unit of work in a transaction of the tenant begins without a deed. If it fails, it spoils the
transaction, and otherwise it ends without a deed. -/
theorem unit_eq_spoil {shared : Shared} {context : Context} {name handle : Handle}
    (inside : context.transaction = some name) (known : shared.own[name.number]? = some handle)
    (backend : Backend) (surroundings : Surroundings) (outcome : Outcome) :
    shared.enter (.transactional backend) surroundings context = (.ok context, shared) ∧
      shared.leave (.transactional backend) context context outcome =
        (outcome, match outcome with
          | .failed _ => (spoil name.number).run shared
          | _ => shared) := by
  refine ⟨shared.enter_of_inside surroundings inside _, ?_⟩
  have meant : shared.handle name = handle := by
    rw [Shared.handle, Database.meant, known]
    rfl
  rw [shared.leave_of_inside inside]
  cases outcome <;> simp [run, known, meant]

end Deed

/-- The shared database after some deeds. -/
def Shared.after (shared : Shared) (deeds : List Deed) : Shared :=
  deeds.foldl (fun shared deed => deed.run shared) shared

/-! ### Work among others -/

/-- What the tenant learns by a step. -/
inductive Answer where
  /-- The answer of a call. -/
  | call (operation : Operation) (reply : Except StoreError operation.Reply)
  /-- Whether a unit of work could begin. -/
  | begun (fault : Option StoreError)
  /-- How a unit of work has ended. -/
  | ended (outcome : Outcome)

/-- A step of the tenant: what was stored before, what the tenant learned, and what was stored
then. -/
structure Move where
  before : Store
  answer : Answer
  after : Store

/-- A session of work among others: its end, the number of steps, and the moves of the tenant. -/
structure Session (σ : Type) where
  outcome : Outcome
  own : σ
  steps : Nat
  shared : Shared
  moves : List Move

/-- The session with some moves before it. -/
def Session.follow {σ : Type} (session : Session σ) (moves : List Move) : Session σ :=
  { session with moves := moves ++ session.moves }

namespace Work

variable {σ : Type}

/-- Run work on the variables `own` and a shared database. Before its step of a number others do
their deeds of this number; `readings` has the surroundings of the step. -/
def runAmong (manager : Manager) (readings : Nat → Surroundings) (deeds : Nat → List Deed) :
    Work σ → Nat → σ → Shared → Session σ
  | done, step, own, shared => ⟨.done, own, step + 1, shared.after (deeds step), []⟩
  | fail error, step, own, shared =>
    ⟨.failed error, own, step + 1, shared.after (deeds step), []⟩
  | panic message, step, own, shared =>
    ⟨.panicked message, own, step + 1, shared.after (deeds step), []⟩
  | crash message, step, own, shared =>
    ⟨.panicked message, own, step + 1, shared.after (deeds step), []⟩
  | note change next, step, own, shared =>
    runAmong manager readings deeds (next (change own)) step (change own) shared
  | call context operation next, step, own, shared =>
    let found := shared.after (deeds step)
    let left := found.call (readings step) context operation
    (runAmong manager readings deeds (next left.1) (step + 1) own left.2).follow
      [⟨found.database.store, .call operation left.1, left.2.database.store⟩]
  | look context next, step, own, shared =>
    let found := shared.after (deeds step)
    runAmong manager readings deeds (next (context.transaction.bind found.transaction?)) (step + 1)
      own found
  | mark context next, step, own, shared =>
    runAmong manager readings deeds next (step + 1) own ((shared.after (deeds step)).mark context)
  | foreign backend next, step, own, shared =>
    let found := shared.after (deeds step)
    runAmong manager readings deeds (next ⟨found.own.length⟩) (step + 1) own
      (found.adopt (readings step) backend)
  | unit context body next, step, own, shared =>
    let found := shared.after (deeds step)
    let begun := found.enter manager (readings step) context
    match begun.1 with
    | .error e =>
      (runAmong manager readings deeds (next (.error e)) (step + 1) own begun.2).follow
        [⟨found.database.store, .begun (some e), begun.2.database.store⟩]
    | .ok inside =>
      let start : Move := ⟨found.database.store, .begun none, begun.2.database.store⟩
      match (body inside).crash? with
      | some message => ⟨.panicked message, own, step + 1, begun.2, [start]⟩
      | none =>
        let worked := runAmong manager readings deeds (body inside) (step + 1) own begun.2
        let ready := worked.shared.after (deeds worked.steps)
        let left := ready.leave manager context inside worked.outcome
        let moves := start :: worked.moves ++
          [⟨ready.database.store, .ended left.1, left.2.database.store⟩]
        match left.1 with
        | .done =>
          (runAmong manager readings deeds (next (.ok ())) (worked.steps + 1) worked.own
            left.2).follow moves
        | .failed e =>
          (runAmong manager readings deeds (next (.error e)) (worked.steps + 1) worked.own
            left.2).follow moves
        | .panicked message => ⟨.panicked message, worked.own, worked.steps + 1, left.2, moves⟩

end Work

/-! ### Without others -/

namespace Database

/-- A database that nobody shares: all of its transactions are the own ones. -/
def alone (database : Database) : Shared :=
  ⟨database, (List.range database.transactions.length).map Handle.mk, []⟩

variable (database : Database)

@[simp] theorem length_own_alone : database.alone.own.length = database.transactions.length := by
  simp [alone]

theorem handle_alone (name : Handle) : database.alone.handle name = name := by
  obtain ⟨number⟩ := name
  simp only [Shared.handle, meant, alone, List.getElem?_map, List.length_map, List.length_range]
  by_cases known : number < database.transactions.length
  · simp [List.getElem?_range known]
  · rw [List.getElem?_eq_none (by simpa using known)]
    simp only [Option.map_none, Option.getD_none, Handle.mk.injEq]
    omega

theorem inner_alone (context : Context) : database.alone.inner context = context := by
  have same : database.alone.database.meant database.alone.own = id :=
    funext database.handle_alone
  simp [Shared.inner, Context.among, same]

/-- A change that opens no transaction leaves the database alone. -/
theorem alone_eq {after : Database}
    (same : after.transactions.length = database.transactions.length) :
    ({ database.alone with database := after } : Shared) = after.alone := by
  rw [alone, alone, same]

theorem opened_alone (surroundings : Surroundings) :
    database.alone.opened surroundings = (database.begun surroundings).alone := by
  simp [Shared.opened, alone, begun, nextHandle, List.range_succ]

theorem adopt_alone (surroundings : Surroundings) (backend : String) :
    database.alone.adopt surroundings backend =
      (database.adopt surroundings backend none).1.alone := by
  simp [Shared.adopt, alone, adopt, List.range_succ]

theorem mark_alone (context : Context) :
    database.alone.mark context = Database.alone (match context.transaction with
      | none => database
      | some handle => database.mark handle) := by
  unfold Shared.mark
  cases context.transaction with
  | none => rfl
  | some name =>
    simp only [handle_alone]
    exact database.alone_eq Ending.marked.length_transactions

theorem call_alone (surroundings : Surroundings) (context : Context) (operation : Operation) :
    database.alone.call surroundings context operation =
      let (reply, after) := operation.run surroundings context database
      (reply, after.alone) := by
  have length := length_transactions_run database surroundings context operation
  simp only [Shared.call, inner_alone]
  exact Prod.ext rfl (database.alone_eq length)

theorem leave_alone (manager : Manager) (context inside : Context) (outcome : Outcome) :
    database.alone.leave manager context inside outcome =
      let (outcome, after) := manager.leave context inside outcome database
      (outcome, after.alone) := by
  have length : (manager.leave context inside outcome database).2.transactions.length =
      database.transactions.length := by
    rcases manager.leave_cases context inside outcome database with same | ⟨handle, -, ending⟩
    · rw [same]
    · exact ending.length_transactions
  simp only [Shared.leave, inner_alone]
  exact Prod.ext rfl (database.alone_eq length)

theorem enter_alone (manager : Manager) (surroundings : Surroundings) (context : Context) :
    database.alone.enter manager surroundings context =
      let (answer, after) := manager.enter surroundings context database
      (answer, after.alone) := by
  cases manager with
  | direct =>
    rw [Shared.enter_direct]
    rfl
  | transactional backend =>
    cases around : context.transaction with
    | some name => rw [Shared.enter_of_inside _ _ around, Manager.enter_of_inside around]
    | none =>
      cases fault : backend.openFault with
      | some e =>
        rw [Shared.enter_of_fault _ _ around fault]
        simp only [Manager.enter, around, openTransaction, fault]
        rfl
      | none =>
        rw [Shared.enter_of_opens _ _ around fault, opened_alone, length_own_alone]
        simp only [Manager.enter, around, openTransaction_of_opens fault]
        rfl

end Database

namespace Work

variable {σ : Type}

/-- A session and a run without others end in the same way. -/
structure EndsAs (session : Session σ) (ended : Outcome × σ × Database) : Prop where
  outcome : session.outcome = ended.1
  own : session.own = ended.2.1
  shared : session.shared = ended.2.2.alone

theorem EndsAs.follow {session : Session σ} {ended : Outcome × σ × Database}
    (h : EndsAs session ended) (moves : List Move) : EndsAs (session.follow moves) ended :=
  ⟨h.outcome, h.own, h.shared⟩

/-- Without others, running work among them is running it. -/
theorem runAmong_alone (manager : Manager) (surroundings : Surroundings) (work : Work σ)
    (step : Nat) (own : σ) (database : Database) :
    EndsAs (work.runAmong manager (fun _ => surroundings) (fun _ => []) step own database.alone)
      (work.run manager surroundings own database) := by
  induction work generalizing step own database with
  | done | fail | panic | crash => exact ⟨rfl, rfl, rfl⟩
  | note change next ih => exact ih _ _ _ _
  | call context operation next ih =>
    simp only [runAmong, Shared.after, List.foldl_nil, Database.call_alone]
    exact (ih _ _ _ _).follow _
  | look context next ih =>
    have same : database.alone.transaction? = database.transaction? :=
      funext fun name => by rw [Shared.transaction?, Database.handle_alone]; rfl
    simp only [runAmong, Shared.after, List.foldl_nil, same]
    exact ih _ _ _ _
  | mark context next ih =>
    simp only [runAmong, Shared.after, List.foldl_nil, Database.mark_alone]
    exact ih _ _ _
  | foreign backend next ih =>
    simp only [runAmong, Shared.after, List.foldl_nil, Database.adopt_alone,
      Database.length_own_alone]
    exact ih _ _ _ _
  | unit context body next ihBody ihNext =>
    simp only [runAmong, run, Shared.after, List.foldl_nil, Database.enter_alone]
    generalize manager.enter surroundings context database = entry
    obtain ⟨answer, begun⟩ := entry
    cases answer with
    | error e => exact (ihNext _ _ _ _).follow _
    | ok inside =>
      cases crashes : (body inside).crash? with
      | some message =>
        simp only [crashes]
        exact ⟨rfl, rfl, rfl⟩
      | none =>
        have worked := ihBody inside (step + 1) own begun
        simp only [crashes]
        generalize (body inside).run manager surroundings own begun = ended at worked
        obtain ⟨outcome, own', after⟩ := ended
        obtain ⟨outcome_eq, own_eq, shared_eq⟩ := worked
        rw [outcome_eq, own_eq, shared_eq, Database.leave_alone]
        simp only
        generalize manager.leave context inside outcome after = exit
        obtain ⟨result, closed⟩ := exit
        cases result with
        | done | failed => exact (ihNext _ _ _ _).follow _
        | panicked message => exact ⟨rfl, rfl, rfl⟩

end Work

end RecordStore
