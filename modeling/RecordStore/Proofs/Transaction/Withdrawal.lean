import RecordStore.Proofs.Transaction.Schedule

/-!
# Transactions are taken out of a schedule

To withdraw a transaction is to undo its journal. What the others do in the meantime, on other keys,
goes along with this in every order. So a transaction that is rolled back has left nothing behind:
the records are those of the same schedule without its calls, and the others have heard the same.

* `Database.withdrawn` — a database without the writes of a transaction;
* `Database.Secluded` — the transaction and the others write to different keys, as in
  `Database.secluded_begun`, which `Database.Secluded.run` keeps;
* `Step.withdrawn_run_of_isIn`, `Step.run_withdrawn` — a call in the transaction is gone, and any
  other step goes along with withdrawing it;
* `Schedule.run_withdrawn` — so does a whole schedule;
* `Schedule.store_rollBack_eq_store_without_calls` — what a rollback and a commit do to the records.
-/

namespace RecordStore

namespace Database

/-- A database is determined by its parts, the transactions being looked up one by one. -/
theorem ext_transaction? {a b : Database} (store : a.store = b.store)
    (transactions : ∀ handle, a.transaction? handle = b.transaction? handle)
    (calls : a.calls = b.calls) (moments : a.moments = b.moments) : a = b := by
  have same : a.transactions = b.transactions :=
    List.ext_getElem? fun number => transactions ⟨number⟩
  obtain ⟨_, _, _, _⟩ := a
  obtain ⟨_, _, _, _⟩ := b
  simp only at store same calls moments
  rw [store, same, calls, moments]

/-- The database without the writes of a transaction: they are undone, and the journal is empty. -/
def withdrawn (database : Database) (handle : Handle) : Database :=
  { database with store := (database.entries handle).undo database.store }.modify handle .cleared

variable (database : Database) (handle : Handle)

@[simp] theorem store_withdrawn :
    (database.withdrawn handle).store = (database.entries handle).undo database.store := rfl

@[simp] theorem calls_withdrawn : (database.withdrawn handle).calls = database.calls := rfl

@[simp] theorem moments_withdrawn : (database.withdrawn handle).moments = database.moments := rfl

theorem transaction?_withdrawn (other : Handle) :
    (database.withdrawn handle).transaction? other =
      if handle = other then (database.transaction? other).map .cleared
      else database.transaction? other :=
  transaction?_modify _ handle other .cleared

@[simp] theorem nextHandle_withdrawn :
    (database.withdrawn handle).nextHandle = database.nextHandle :=
  congrArg Handle.mk (length_transactions_modify _ handle .cleared)

variable {database handle}

theorem entries_withdrawn_of_ne {other : Handle} (apart : handle ≠ other) :
    (database.withdrawn handle).entries other = database.entries other := by
  rw [entries, transaction?_withdrawn, if_neg apart, entries]

/-- A transaction keeps its backend when one is withdrawn. -/
theorem checkHandle_withdrawn (database : Database) (handle other : Handle) :
    (database.withdrawn handle).checkHandle other = database.checkHandle other := by
  unfold checkHandle
  rw [transaction?_withdrawn]
  by_cases here : handle = other
  · rw [if_pos here]
    rcases database.transaction? other with _ | ⟨id, backend, _ | journal, rollbackOnly⟩ <;> rfl
  · rw [if_neg here]

/-- A context may write as before. -/
theorem checkWritable_withdrawn (database : Database) (handle : Handle) (context : Context) :
    (database.withdrawn handle).checkWritable context = database.checkWritable context := by
  simp only [checkWritable, checkHandle_withdrawn]

/-! ### Effects -/

variable {α : Type} {context : Context}

theorem entries_settle_of_ne (outside : context.transaction ≠ some handle) (effect : Effect α) :
    (database.settle context effect).entries handle = database.entries handle := by
  rw [entries, transaction?_settle, entries]
  simp [outside]

/-- An effect outside of the transaction goes along with withdrawing it. -/
theorem settle_withdrawn (database : Database) (outside : context.transaction ≠ some handle)
    (effect : Effect α) :
    (database.withdrawn handle).settle context
        ⟨effect.reply, (database.entries handle).undo effect.store, effect.undo⟩ =
      (database.settle context effect).withdrawn handle := by
  refine ext_transaction? ?_ (fun other => ?_) (by simp) (by simp)
  · rw [store_settle, store_withdrawn, entries_settle_of_ne outside, store_settle]
  · rw [transaction?_settle, transaction?_withdrawn, transaction?_withdrawn, transaction?_settle]
    by_cases here : handle = other
    · obtain rfl := here
      simp only [outside, if_true, if_false, Option.map_map]
      rfl
    · rw [if_neg here, if_neg here]
      rfl

/-- An effect in the transaction is gone when the transaction is withdrawn. -/
theorem withdrawn_settle (inside : context.transaction = some handle) {transaction : Transaction}
    {journal : Journal} (found : database.transaction? handle = some transaction)
    (journaled : transaction.journal = some journal) {effect : Effect α}
    (restored : effect.restored = database.store) :
    (database.settle context effect).withdrawn handle = database.withdrawn handle := by
  refine ext_transaction? ?_ (fun other => ?_) (by simp) (by simp)
  · rw [store_withdrawn, store_withdrawn, entries_settle inside found journaled,
      entries_of_journal found journaled, store_settle, Journal.undo_append]
    exact congrArg _ restored
  · rw [transaction?_withdrawn, transaction?_withdrawn, transaction?_settle]
    by_cases here : handle = other
    · obtain rfl := here
      rw [if_pos rfl, if_pos rfl, Option.map_map]
      refine congrArg (Option.map · _) (funext fun t => ?_)
      simp [inside, Transaction.cleared, Function.comp_def]
    · have apart : ¬ context.transaction = some other :=
        fun same => here (Option.some.inj (inside.symm.trans same))
      simp [here, apart]

/-! ### Transactions of others -/

variable {other : Handle}

theorem entries_modify_of_ne (apart : other ≠ handle) (change : Transaction → Transaction) :
    (database.modify other change).entries handle = database.entries handle := by
  rw [entries, transaction?_modify, if_neg apart, entries]

theorem entries_mark (database : Database) (other handle : Handle) :
    (database.mark other).entries handle = database.entries handle := by
  rw [entries, mark, transaction?_modify, entries]
  split
  · cases database.transaction? handle <;> rfl
  · rfl

/-- A change of a transaction that leaves the journal alone goes along with withdrawing it. -/
theorem modify_withdrawn {change : Transaction → Transaction}
    (keeps : ∀ t, change t.cleared = (change t).cleared)
    (same : (database.modify other change).entries handle = database.entries handle) :
    (database.withdrawn handle).modify other change =
      (database.modify other change).withdrawn handle := by
  refine ext_transaction? ?_ (fun name => ?_) rfl rfl
  · rw [store_withdrawn, same]
    rfl
  · rw [transaction?_modify, transaction?_withdrawn, transaction?_withdrawn, transaction?_modify]
    have swapped : change ∘ Transaction.cleared = Transaction.cleared ∘ change := funext keeps
    by_cases here : handle = name <;> by_cases there : other = name <;>
      simp [here, there, Option.map_map, swapped]

theorem push_withdrawn (database : Database) (known : (database.origin? handle).isSome)
    (opened : Transaction) :
    (database.withdrawn handle).push opened = (database.push opened).withdrawn handle := by
  have old := ne_nextHandle known
  refine ext_transaction? ?_ (fun name => ?_) rfl rfl
  · have same : (database.push opened).entries handle = database.entries handle := by
      rw [entries, transaction?_push, if_neg old, entries]
    rw [store_withdrawn, same]
    rfl
  · rw [transaction?_push, transaction?_withdrawn, transaction?_withdrawn, transaction?_push,
      nextHandle_withdrawn]
    by_cases new : name = database.nextHandle
    · have apart : ¬ handle = name := fun same => old (same.trans new)
      rw [if_pos new, if_neg apart, if_pos new]
    · rw [if_neg new, if_neg new]

theorem adopt_withdrawn (database : Database) (known : (database.origin? handle).isSome)
    (surroundings : Surroundings) (backend : String) (journal : Option Journal) :
    ((database.withdrawn handle).adopt surroundings backend journal).1 =
      (database.adopt surroundings backend journal).1.withdrawn handle := by
  have same : (database.withdrawn handle).transactions.length = database.transactions.length :=
    length_transactions_modify _ handle .cleared
  simp only [adopt, same]
  exact database.push_withdrawn known _

theorem openTransaction_withdrawn (known : (database.origin? handle).isSome)
    (surroundings : Surroundings) (backend : Backend) :
    ((database.withdrawn handle).openTransaction surroundings backend).2 =
      (database.openTransaction surroundings backend).2.withdrawn handle := by
  rw [snd_openTransaction, snd_openTransaction]
  dsimp only
  split
  · exact adopt_withdrawn { database with
      calls := { database.calls with opened := database.calls.opened + 1 } } known surroundings
      memoryBackend (some [])
  · rfl

theorem commit_withdrawn (apart : other ≠ handle) (backend : Backend) :
    ((database.withdrawn handle).commit backend other).2 =
      (database.commit backend other).2.withdrawn handle := by
  rw [snd_commit, snd_commit]
  cases backend.commitFault with
  | some e => rfl
  | none =>
    dsimp only
    rw [if_pos rfl, if_pos rfl, ← modify_withdrawn (fun _ => rfl) (entries_modify_of_ne apart _)]
    rfl

theorem rollBack_withdrawn (apart : other ≠ handle) (backend : Backend)
    (different : ∀ entry ∈ database.entries handle, ∀ entry' ∈ database.entries other,
      entry.key ≠ entry'.key) :
    (database.withdrawn handle).rollBack backend other =
      (database.rollBack backend other).withdrawn handle := by
  rw [rollBack_eq, rollBack_eq]
  cases backend.rollbackFault with
  | some e => rfl
  | none =>
    rw [entries_withdrawn_of_ne (Ne.symm apart), store_withdrawn, ← Store.undo_comm different]
    dsimp only
    rw [if_pos rfl, if_pos rfl, ← modify_withdrawn (fun _ => rfl) (entries_modify_of_ne apart _)]
    rfl

/-! ### A transaction apart from the others -/

/-- A transaction has a journal, with entries for some keys only, and no other journal has an entry
for these keys. -/
structure Secluded (handle : Handle) (keys : Set Key) (database : Database) : Prop where
  journaled : ∃ id backend, database.origin? handle = some (id, backend, true)
  own : ∀ entry ∈ database.entries handle, entry.key ∈ keys
  others : ∀ other ≠ handle, ∀ entry ∈ database.entries other, entry.key ∉ keys

namespace Secluded

variable {keys : Set Key}

theorem known (h : database.Secluded handle keys) : (database.origin? handle).isSome := by
  obtain ⟨id, backend, origin⟩ := h.journaled
  rw [origin]
  rfl

theorem journal (h : database.Secluded handle keys) :
    ∃ transaction journal, database.transaction? handle = some transaction ∧
      transaction.journal = some journal := by
  obtain ⟨id, backend, origin⟩ := h.journaled
  obtain ⟨transaction, found, same⟩ := Option.map_eq_some_iff.1 origin
  have some : transaction.journal.isSome = true := congrArg (fun o => o.2.2) same
  obtain ⟨journal, journaled⟩ := Option.isSome_iff_exists.1 some
  exact ⟨transaction, journal, found, journaled⟩

/-- Steps keep the transaction apart if it writes to its own keys only, and the others do not. -/
theorem run (h : database.Secluded handle keys) {step : Step}
    (own : step.isIn handle = true → ∀ key ∈ step.target?, key ∈ keys)
    (others : step.isIn handle = false → ∀ key ∈ step.target?, key ∉ keys) :
    (step.run database).Secluded handle keys where
  journaled := by
    obtain ⟨id, backend, origin⟩ := h.journaled
    exact ⟨id, backend, (step.origin_run h.known).trans origin⟩
  own entry mem := by
    rcases Step.mem_entries mem with known | ⟨inside, target⟩
    · exact h.own entry known
    · exact own inside _ target
  others other apart entry mem := by
    rcases Step.mem_entries mem with known | ⟨inside, target⟩
    · exact h.others other apart entry known
    · exact others (Step.isIn_eq_false_of_ne apart inside) _ target

end Secluded

/-! ### Opening a transaction -/

theorem entries_begun (database : Database) (surroundings : Surroundings) :
    (database.begun surroundings).entries database.nextHandle = [] := by
  rw [entries, transaction?_begun]
  rfl

theorem withdrawn_begun (database : Database) (surroundings : Surroundings) :
    (database.begun surroundings).withdrawn database.nextHandle = database.begun surroundings := by
  refine ext_transaction? ?_ (fun other => ?_) rfl rfl
  · rw [store_withdrawn, entries_begun]
    rfl
  · rw [transaction?_withdrawn]
    split
    next here =>
      rw [← here, transaction?_begun]
      rfl
    next => rfl

/-- A new transaction is apart from the others as long as they have no entries for its keys. -/
theorem secluded_begun (database : Database) (surroundings : Surroundings) {keys : Set Key}
    (free : ∀ other, ∀ entry ∈ database.entries other, entry.key ∉ keys) :
    (database.begun surroundings).Secluded database.nextHandle keys where
  journaled := by
    rw [origin?, transaction?_begun]
    exact ⟨_, _, rfl⟩
  own entry mem := by
    rw [entries_begun] at mem
    exact absurd mem List.not_mem_nil
  others other _ entry mem := by
    have known : entry ∈ database.entries other := mem_entries_push (by rfl) mem
    exact free other entry known

end Database

/-! ### Steps -/

namespace Step

variable {database : Database} {handle : Handle} {keys : Set Key}

/-- A call in the transaction is gone when the transaction is withdrawn. -/
theorem withdrawn_run_of_isIn (h : database.Secluded handle keys) {step : Step}
    (inside : step.isIn handle = true) :
    (step.run database).withdrawn handle = database.withdrawn handle := by
  cases step with
  | call moment context operation =>
    obtain ⟨transaction, journal, found, journaled⟩ := h.journal
    show (operation.runAt moment context database).2.withdrawn handle = _
    rcases operation.runAt_cases moment context database with ⟨e, refused⟩ | settled
    · rw [refused]
    · rw [settled]
      exact Database.withdrawn_settle (beq_iff_eq.1 inside) found journaled
        (operation.restore_effect moment context.tenant database.store)
  | openTransaction | adopt | mark | commit | rollBack => exact nomatch inside

end Step

namespace Operation

/-- A call outside of a transaction, and for other keys, goes along with withdrawing it. -/
theorem runAt_withdrawn {database : Database} {handle : Handle} {context : Context}
    (outside : context.transaction ≠ some handle) {moment : Moment} {operation : Operation}
    (apart : ∀ entry ∈ database.entries handle,
      entry.key ∉ operation.keys moment context.tenant) :
    operation.runAt moment context (database.withdrawn handle) =
      ((operation.runAt moment context database).1,
        (operation.runAt moment context database).2.withdrawn handle) := by
  have effect := operation.effect_undo apart database.store
  have settled := database.settle_withdrawn outside
    (operation.effect moment context.tenant database.store)
  have same := database.checkWritable_withdrawn handle context
  cases alters : operation.alteration? moment context.tenant with
  | none =>
    rw [runAt_of_reading context alters, runAt_of_reading context alters, Database.store_withdrawn,
      effect, settled]
  | some alteration =>
    cases allowed : database.checkWritable context with
    | error e =>
      rw [runAt_of_refused context alters _ (same.trans allowed),
        runAt_of_refused context alters _ allowed]
    | ok _ =>
      rw [runAt_eq_of_writable (same.trans allowed), runAt_eq_of_writable allowed,
        Database.store_withdrawn, effect, settled]

end Operation

namespace Step

variable {database : Database} {handle : Handle} {keys : Set Key}

/-- Every step of the others goes along with withdrawing the transaction. -/
theorem run_withdrawn (h : database.Secluded handle keys) {step : Step}
    (outside : step.isIn handle = false) (running : ¬ step.Ends handle)
    (apart : ∀ key ∈ keys, key ∉ step.keys) :
    step.run (database.withdrawn handle) = (step.run database).withdrawn handle ∧
      step.reply? (database.withdrawn handle) = step.reply? database := by
  cases step with
  | call moment context operation =>
    have free : ∀ entry ∈ database.entries handle,
        entry.key ∉ operation.keys moment context.tenant :=
      fun entry mem => apart _ (h.own entry mem)
    have call := Operation.runAt_withdrawn (by simpa [isIn] using outside) free
    refine ⟨congrArg Prod.snd call, ?_⟩
    simp only [reply?, call]
  | openTransaction surroundings backend =>
    exact ⟨Database.openTransaction_withdrawn h.known surroundings backend, rfl⟩
  | adopt surroundings backend =>
    exact ⟨database.adopt_withdrawn h.known surroundings backend none, rfl⟩
  | mark other =>
    exact ⟨Database.modify_withdrawn (fun _ => rfl) (database.entries_mark other handle), rfl⟩
  | commit backend other => exact ⟨Database.commit_withdrawn running backend, rfl⟩
  | rollBack backend other =>
    refine ⟨Database.rollBack_withdrawn running backend fun entry mem entry' mem' same => ?_, rfl⟩
    exact h.others other running entry' mem' (same ▸ h.own entry mem)

end Step

/-! ### Schedules -/

namespace Schedule

variable {database : Database} {handle : Handle} {keys : Set Key}

/-- A schedule of steps that write to different keys goes along with withdrawing the transaction:
what is left is the schedule without the calls in it. -/
theorem run_withdrawn (h : database.Secluded handle keys) {schedule : List Step}
    (running : ∀ step ∈ schedule, ¬ step.Ends handle)
    (own : ∀ step ∈ schedule, step.isIn handle = true → ∀ key ∈ step.target?, key ∈ keys)
    (others : ∀ step ∈ schedule, step.isIn handle = false → ∀ key ∈ keys, key ∉ step.keys) :
    run (schedule.filter fun step => !step.isIn handle) (database.withdrawn handle) =
        (run schedule database).withdrawn handle ∧
      replies (fun _ => true) (schedule.filter fun step => !step.isIn handle)
          (database.withdrawn handle) =
        replies (fun step => !step.isIn handle) schedule database := by
  induction schedule generalizing database with
  | nil => exact ⟨rfl, rfl⟩
  | cons step schedule ih =>
    rw [List.forall_mem_cons] at running own others
    have next : (step.run database).Secluded handle keys :=
      h.run own.1 fun outside key target mem => others.1 outside key mem (step.target_mem target)
    have later := ih next running.2 own.2 others.2
    cases inside : step.isIn handle with
    | true =>
      have gone := Step.withdrawn_run_of_isIn h inside
      rw [gone] at later
      simpa [replies, inside] using later
    | false =>
      obtain ⟨moved, answer⟩ := Step.run_withdrawn h inside running.1 (others.1 inside)
      rw [← moved] at later
      simpa [replies, inside, answer] using later

/-- A transaction is opened, and then whoever uses the database takes steps on it. As long as nobody
else uses what the transaction writes to, and no open journal has entries for it, rolling the
transaction back leaves the records that the schedule without its calls leaves, and the others have
got the same answers. Committing it changes no record. -/
theorem store_rollBack_eq_store_without_calls (database : Database) (surroundings : Surroundings)
    {schedule : List Step} (running : ∀ step ∈ schedule, ¬ step.Ends database.nextHandle)
    (apart : ∀ own ∈ schedule, own.isIn database.nextHandle = true → ∀ key ∈ own.target?,
      (∀ step ∈ schedule, step.isIn database.nextHandle = false → key ∉ step.keys) ∧
        ∀ handle, ∀ entry ∈ database.entries handle, entry.key ≠ key)
    {backend : Backend} (undoes : backend.rollbackFault = none) :
    let handle := database.nextHandle
    let others : Step → Bool := fun step => !step.isIn handle
    let begun := database.begun surroundings
    let reached := run schedule begun
    let spared := schedule.filter others
    (∀ key, (reached.rollBack backend handle).store.get? key = (run spared begun).store.get? key) ∧
      replies others schedule begun = replies (fun _ => true) spared begun ∧
      ∀ backend key, (reached.commit backend handle).2.store.get? key = reached.store.get? key := by
  intro handle others begun reached spared
  let keys : Set Key := {key | ∃ own ∈ schedule, own.isIn handle = true ∧ key ∈ own.target?}
  have secluded : begun.Secluded handle keys := by
    refine database.secluded_begun surroundings fun other entry mem => ?_
    rintro ⟨own, here, inside, target⟩
    exact (apart own here inside _ target).2 other entry mem rfl
  obtain ⟨moved, answers⟩ := run_withdrawn secluded running
    (fun own here inside key target => ⟨own, here, inside, target⟩)
    (fun step here outside key written => by
      obtain ⟨own, there, inside, target⟩ := written
      exact (apart own there inside key target).1 step here outside)
  -- a transaction that has just been opened has nothing to withdraw
  rw [database.withdrawn_begun surroundings] at moved answers
  refine ⟨fun key => ?_, answers.symm, fun backend key => ?_⟩
  · rw [reached.store_rollBack undoes, ← reached.store_withdrawn, ← moved]
  · rw [Database.store_commit]

/-- A step of a customer on an order, at a moment of its own, in a transaction or outside. -/
def onOrders (transaction : Option Nat) (operation : Operation) : Step :=
  .call ⟨.ofSeconds 7, "o-7", .byId⟩ ⟨⟨"acme"⟩, transaction.map Handle.mk, none⟩ operation

/-- A database with an open transaction, in which an order has been created. -/
def occupied : Database :=
  run [.openTransaction .counting .reliable, onOrders (some 0) (.create "orders" (.new "o-2"))]
    .empty

/-- A transaction creates an order, removes it and creates it again. In between the other
transaction is rolled back, and its order is created again outside of all transactions. -/
def interleaved : List Step :=
  [onOrders (some 1) (.create "orders" (.new "o-1")),
    onOrders (some 0) (.update "orders" "o-2" (.ofList [("amount", .integer 5)])),
    onOrders none (.create "orders" (.new "o-3")),
    onOrders (some 1) (.delete "orders" "o-1"),
    .rollBack .reliable ⟨0⟩,
    onOrders (some 1) (.create "orders" (.new "o-1")),
    onOrders none (.create "orders" (.new "o-2"))]

/-- The order of the transaction is there until it is rolled back, and those of the others stay. -/
theorem interleaved_order_is_taken_back :
    let key (id : String) : Key := ⟨⟨⟨"acme"⟩, "orders"⟩, id⟩
    let reached := run interleaved (occupied.begun .counting)
    let undone := reached.rollBack .reliable occupied.nextHandle
    (∀ step ∈ interleaved, ¬ step.Ends occupied.nextHandle) ∧
      (reached.store.get? (key "o-1")).isSome = true ∧
      undone.store.get? (key "o-1") = none ∧ (undone.store.get? (key "o-2")).isSome = true ∧
      (undone.store.get? (key "o-3")).isSome = true := by
  intro key reached undone
  have running : ∀ step ∈ interleaved, ¬ step.Ends occupied.nextHandle := by
    have other : (⟨0⟩ : Handle) ≠ occupied.nextHandle := by decide +kernel
    simpa [interleaved, onOrders, Step.Ends] using other
  -- the identifiers are not blank, so that they stay
  have named : ∀ id ∈ ["o-1", "o-2", "o-3"],
      ((Record.new id).prepared ⟨.ofSeconds 7, "o-7", .byId⟩).id = id := by decide +kernel
  simp only [List.forall_mem_cons] at named
  have target : ∀ own ∈ interleaved, own.isIn ⟨1⟩ = true → ∀ written ∈ own.target?,
      written = key "o-1" := by decide +kernel
  have free : ∀ step ∈ interleaved, step.isIn ⟨1⟩ = false → key "o-1" ∉ step.keys := by
    simp [interleaved, onOrders, Step.isIn, Step.keys, Operation.keys, key, named.2]
  have entries : ∀ handle, ∀ entry ∈ occupied.entries handle, entry.key ≠ key "o-1" := by
    rintro ⟨_ | number⟩
    · decide +kernel
    · exact fun _ none => absurd none List.not_mem_nil
  have undoes : Backend.reliable.rollbackFault = none := rfl
  obtain ⟨same, -, -⟩ := store_rollBack_eq_store_without_calls occupied .counting running
    (fun own here inside written is => by
      obtain rfl := target own here inside written is
      exact ⟨free, entries⟩) undoes
  refine ⟨running, ?_, Option.isNone_iff_eq_none.1 ?_, ?_, ?_⟩
  · decide +kernel
  all_goals
    rw [same]
    decide +kernel

end Schedule

end RecordStore
