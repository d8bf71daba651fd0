import Mathlib.Logic.Function.Basic
import RecordStore.Proofs.Transaction.Schedule

/-!
# Handles of other stores and of transactions that have ended

Handles are passed around freely, so that a write can come with one of another backend, of another
store, or of a transaction that has ended. A write looks only at whether the transaction has a
journal. So those of another backend are refused, and nothing comes of them; all others are let
through, and a rollback undoes what they have written in whatever store it is made on.

* `Realm` — several stores, where all handles are known, with `Realm.step` and `Realm.run`;
* `Step.opens?` — the steps that open a transaction, and `Realm.origin_run` — what is known of it
  stays;
* `Realm.Refuses`, `Realm.Accepts` — the two fates of a write with a handle;
* `Realm.refuses_iff_foreign` — which of them it meets, and `Realm.stray_handles_are_accepted` —
  what comes of handles that are let through.
-/

namespace RecordStore

/-! ### Refusals and faults -/

namespace Operation

variable {operation : Operation}

/-- What can go wrong with a write that is let through has nothing to do with transactions. -/
theorem reply_effect_ne_transaction (writes : operation.writes = true) (moment : Moment)
    (tenant : Tenant) (store : Store) (cause : TransactionError) :
    (operation.effect moment tenant store).reply ≠ .error (.transaction cause) := by
  obtain ⟨alteration, alters⟩ := exists_alteration writes moment tenant
  rw [effect_eq_alteration alters]
  cases operation with
  | create | update | delete =>
    obtain rfl := Option.some.inj alters
    unfold Alteration.effect Effect.writing Alteration.change
    generalize store.get? _ = before
    cases before <;> nofun
  | read | list | query | snapshot | count => exact nomatch writes

end Operation

namespace Step

/-- The backend that a step opens a transaction with, and whether the transaction has a journal. -/
def opens? : Step → Option (String × Bool)
  | openTransaction _ backend =>
    if backend.openFault.isNone then some (memoryBackend, true) else none
  | adopt _ backend => some (backend, false)
  | _ => none

theorem origin_of_opens {step : Step} {opened : String × Bool} (opens : step.opens? = some opened)
    (database : Database) :
    ∃ id, (step.run database).origin? database.nextHandle = some (id, opened) := by
  cases step with
  | openTransaction surroundings backend =>
    obtain ⟨free, rfl⟩ : backend.openFault.isNone ∧ (memoryBackend, true) = opened := by
      simpa [opens?] using opens
    rw [run, Database.openTransaction_of_opens (Option.isNone_iff_eq_none.1 free),
      Database.origin?, Database.transaction?_begun]
    exact ⟨_, rfl⟩
  | adopt surroundings backend =>
    obtain rfl := Option.some.inj opens
    have new : ((adopt surroundings backend).run database).transaction? database.nextHandle =
        some ⟨surroundings.transactionId database.transactions.length, backend, none, false⟩ :=
      (database.transaction?_push _ _).trans (if_pos rfl)
    rw [Database.origin?, new]
    exact ⟨_, rfl⟩
  | call | mark | commit | rollBack => cases opens

end Step

/-! ### Several stores -/

/-- Several stores, and the transactions of all of them. -/
structure Realm (ι : Type) where
  stores : ι → Store
  transactions : List Transaction
  calls : Calls
  moments : Nat

namespace Realm

variable {ι : Type}

/-- What is seen of a realm at one of its stores. -/
def database (realm : Realm ι) (site : ι) : Database :=
  ⟨realm.stores site, realm.transactions, realm.calls, realm.moments⟩

/-- The handle of the transaction that is opened next, wherever that is. -/
def nextHandle (realm : Realm ι) : Handle := ⟨realm.transactions.length⟩

/-- The state of the transaction of a handle, wherever it is used. -/
def transaction? (realm : Realm ι) (handle : Handle) : Option Transaction :=
  realm.transactions[handle.number]?

/-- What stays of the transaction of a handle. -/
def origin? (realm : Realm ι) (handle : Handle) : Option (String × String × Bool) :=
  (realm.transaction? handle).map Transaction.origin

/-- The entries of the transaction of a handle. -/
def entries (realm : Realm ι) (handle : Handle) : Journal :=
  ((realm.transaction? handle).bind Transaction.journal).getD []

variable {realm : Realm ι} {handle : Handle} {context : Context} {id backend : String} {ours : Bool}

theorem transaction_of_origin (origin : realm.origin? handle = some (id, backend, ours)) :
    ∃ transaction, realm.transaction? handle = some transaction ∧ transaction.backend = backend ∧
      transaction.journal.isSome = ours := by
  obtain ⟨transaction, found, same⟩ := Option.map_eq_some_iff.1 origin
  obtain ⟨-, rfl, rfl⟩ := same
  exact ⟨transaction, found, rfl, rfl⟩

/-- A write looks at whether the transaction has a journal, and at nothing else. -/
theorem checkWritable_database (inside : context.transaction = some handle)
    {transaction : Transaction} (found : realm.transaction? handle = some transaction) (site : ι) :
    (realm.database site).checkWritable context =
      if transaction.journal.isSome then .ok ()
      else .error (Database.foreignHandle transaction) := by
  have seen : (realm.database site).transaction? handle = some transaction := found
  rw [Database.checkWritable, inside]
  simp only [Database.checkHandle, seen]

/-- The transaction of another backend has no entries. -/
theorem entries_of_foreign (origin : realm.origin? handle = some (id, backend, false)) :
    realm.entries handle = [] := by
  obtain ⟨transaction, found, -, journal⟩ := transaction_of_origin origin
  have none : transaction.journal = none := by simpa using journal
  rw [entries, found, Option.bind_some, none]
  rfl

variable [DecidableEq ι]

/-- Take a step at one of the stores. -/
def step (realm : Realm ι) (site : ι) (step : Step) : Realm ι :=
  let after := step.run (realm.database site)
  ⟨Function.update realm.stores site after.store, after.transactions, after.calls, after.moments⟩

/-- Take the steps of a schedule, each at the store that it names. -/
def run (schedule : List (ι × Step)) (realm : Realm ι) : Realm ι :=
  schedule.foldl (fun realm visit => realm.step visit.1 visit.2) realm

/-- A step leaves alone who has opened a transaction, whatever the store. -/
theorem origin_step (known : (realm.origin? handle).isSome) (site : ι) (step : Step) :
    (realm.step site step).origin? handle = realm.origin? handle := by
  have seen : ((realm.database site).origin? handle).isSome := known
  exact step.origin_run seen

theorem origin_run (known : (realm.origin? handle).isSome) (schedule : List (ι × Step)) :
    (run schedule realm).origin? handle = realm.origin? handle := by
  induction schedule generalizing realm with
  | nil => rfl
  | cons visit schedule ih =>
    have same := origin_step known visit.1 visit.2
    exact (ih (same ▸ known)).trans same

/-- A step that changes nothing at its store changes nothing at all. -/
theorem step_of_same {site : ι} {step : Step}
    (same : step.run (realm.database site) = realm.database site) :
    realm.step site step = realm := by
  rw [Realm.step, same]
  dsimp only [database]
  rw [Function.update_eq_self]

/-- The end of a transaction without entries changes no store. -/
theorem stores_step_of_ends (empty : realm.entries handle = []) (site : ι) {step : Step}
    (ends : step.Ends handle) : (realm.step site step).stores = realm.stores := by
  have same : (step.run (realm.database site)).store = realm.stores site := by
    cases step with
    | commit backend other => exact (realm.database site).store_commit backend other
    | rollBack backend other =>
      obtain rfl : other = handle := ends
      have none : (realm.database site).entries other = [] := empty
      show ((realm.database site).rollBack backend other).store = _
      rw [Database.rollBack_eq, none]
      dsimp only
      split <;> rfl
    | call | openTransaction | adopt | mark => exact ends.elim
  show Function.update realm.stores site _ = realm.stores
  rw [same, Function.update_eq_self]

/-! ### Writes -/

variable {site : ι} {moment : Moment} {operation : Operation}

/-- A write is refused for its handle, and changes nothing. Nor does the end of the transaction
change any store, whatever is done before it. -/
structure Refuses (realm : Realm ι) (site : ι) (moment : Moment) (context : Context)
    (operation : Operation) (handle : Handle) (backend : String) : Prop where
  reply : ∃ transaction, transaction.backend = backend ∧
    (operation.runAt moment context (realm.database site)).1 =
      .error (Database.foreignHandle transaction)
  unchanged : realm.step site (.call moment context operation) = realm
  ends : ∀ later there, ∀ ending : Step, ending.Ends handle →
    ((run later realm).step there ending).stores = (run later realm).stores

/-- A write is let through and has its effect in the store on which it is made. Its entry goes into
the journal of the transaction, which a rollback undoes in the store on which that is made. -/
structure Accepts (realm : Realm ι) (site : ι) (moment : Moment) (context : Context)
    (operation : Operation) (handle : Handle) : Prop where
  reply : (operation.runAt moment context (realm.database site)).1 =
    (operation.effect moment context.tenant (realm.stores site)).reply
  stores : (realm.step site (.call moment context operation)).stores =
    Function.update realm.stores site
      (operation.effect moment context.tenant (realm.stores site)).store
  entries : (realm.step site (.call moment context operation)).entries handle =
    (operation.effect moment context.tenant (realm.stores site)).entries ++ realm.entries handle
  undoes : ∀ there, ∀ backend : Backend, backend.rollbackFault = none →
    let after := realm.step site (.call moment context operation)
    (after.step there (.rollBack backend handle)).stores =
      Function.update after.stores there ((after.entries handle).undo (after.stores there))

theorem refuses_of_foreign (inside : context.transaction = some handle)
    (origin : realm.origin? handle = some (id, backend, false))
    (writes : operation.writes = true) :
    realm.Refuses site moment context operation handle backend := by
  obtain ⟨transaction, found, named, journal⟩ := transaction_of_origin origin
  obtain ⟨alteration, alters⟩ := Operation.exists_alteration writes moment context.tenant
  have closed : (realm.database site).checkWritable context =
      .error (Database.foreignHandle transaction) := by
    rw [checkWritable_database inside found, journal]
    rfl
  have refused := Operation.runAt_of_refused context alters _ closed
  refine ⟨⟨transaction, named, congrArg Prod.fst refused⟩,
    step_of_same (congrArg Prod.snd refused), fun later there ending ends => ?_⟩
  have known : (realm.origin? handle).isSome := by
    rw [origin]
    rfl
  have stays := (origin_run known later).trans origin
  exact stores_step_of_ends (entries_of_foreign stays) there ends

theorem accepts_of_ours (inside : context.transaction = some handle)
    (origin : realm.origin? handle = some (id, backend, true)) :
    realm.Accepts site moment context operation handle := by
  obtain ⟨transaction, found, -, journaled⟩ := transaction_of_origin origin
  obtain ⟨journal, journal_eq⟩ := Option.isSome_iff_exists.1 journaled
  have free : (realm.database site).checkWritable context = .ok () := by
    rw [checkWritable_database inside found, journaled]
    rfl
  have settled := Operation.runAt_eq_of_writable free moment operation
  refine ⟨congrArg Prod.fst settled, ?_, ?_, fun there backend undoes => ?_⟩
  · show Function.update realm.stores site
      (operation.runAt moment context (realm.database site)).2.store = _
    rw [settled, Database.store_settle]
    rfl
  · show (operation.runAt moment context (realm.database site)).2.entries handle = _
    have seen : (realm.database site).transaction? handle = some transaction := found
    have before : realm.entries handle = journal := Database.entries_of_journal seen journal_eq
    rw [settled, before]
    exact Database.entries_settle inside seen journal_eq _
  · intro after
    exact congrArg (Function.update after.stores there)
      ((after.database there).store_rollBack undoes handle)

/-- Some handle is opened, by another backend or by the one of a store, and then whoever uses the
stores takes steps. A write with the handle is refused as foreign if another backend has opened it.
Otherwise it is let through, on whichever store the transaction has been opened, and whether or not
it has ended. -/
theorem refuses_iff_foreign (realm : Realm ι) (home : ι) {opening : Step}
    (opens : opening.opens? = some (backend, ours)) (between : List (ι × Step)) (site : ι)
    (inside : context.transaction = some realm.nextHandle)
    (writes : operation.writes = true) :
    let reached := run between (realm.step home opening)
    ((∃ message, (operation.runAt moment context (reached.database site)).1 =
        .error (.transaction (.invalidHandle message))) ↔ ours = false) ∧
      (ours = false →
        reached.Refuses site moment context operation realm.nextHandle backend) ∧
      (ours = true → reached.Accepts site moment context operation realm.nextHandle) := by
  intro reached
  obtain ⟨id, opened⟩ := Step.origin_of_opens opens (realm.database home)
  have origin : (realm.step home opening).origin? realm.nextHandle = some (id, backend, ours) :=
    opened
  have known : ((realm.step home opening).origin? realm.nextHandle).isSome := by
    rw [origin]
    rfl
  have stays : reached.origin? realm.nextHandle = some (id, backend, ours) :=
    (origin_run known between).trans origin
  cases ours with
  | false =>
    have refuses : reached.Refuses site moment context operation realm.nextHandle backend :=
      refuses_of_foreign inside stays writes
    obtain ⟨transaction, -, reply⟩ := refuses.reply
    exact ⟨⟨fun _ => rfl, fun _ => ⟨_, reply⟩⟩, fun _ => refuses, nofun⟩
  | true =>
    have accepts : reached.Accepts site moment context operation realm.nextHandle :=
      accepts_of_ours inside stays
    refine ⟨⟨?_, nofun⟩, nofun, fun _ => accepts⟩
    rintro ⟨message, invalid⟩
    have refused := accepts.reply.symm.trans invalid
    exact absurd refused (Operation.reply_effect_ne_transaction writes _ _ _ _)

/-- Two stores without records. -/
def vacant : Realm (Fin 2) := ⟨fun _ => .empty, [], ⟨0, 0, 0⟩, 0⟩

/-- A customer in the first transaction, wherever it has been opened. -/
def holder : Context := ⟨⟨"acme"⟩, some ⟨0⟩, none⟩

/-- Creating an order. -/
def ordering (context : Context) : Step :=
  .call ⟨.ofSeconds 7, "o-7", .byId⟩ context (.create "orders" (.new "o-1"))

/-- The handle of another backend is refused, also after it has been marked and rolled back. -/
theorem borrowed_is_refused :
    let opening : Step := .adopt .counting "postgres"
    let reached := run [(1, .mark ⟨0⟩), (0, .rollBack .reliable ⟨0⟩)] (vacant.step 0 opening)
    opening.opens? = some ("postgres", false) ∧ holder.transaction = some vacant.nextHandle ∧
      reached.Refuses 1 ⟨.ofSeconds 7, "o-7", .byId⟩ holder (.create "orders" (.new "o-1")) ⟨0⟩
        "postgres" := by
  intro opening reached
  have opens : opening.opens? = some ("postgres", false) := rfl
  have inside : holder.transaction = some vacant.nextHandle := rfl
  have writes : (Operation.create "orders" (.new "o-1")).writes = true := rfl
  exact ⟨opens, inside, (refuses_iff_foreign vacant 0 opens _ 1 inside writes).2.1 rfl⟩

/-- A handle is let through after its transaction has been committed, and one of the other store is
let through, too. There the order stays when the transaction is rolled back, and the store of the
transaction loses an order that has never been touched in it. -/
theorem stray_handles_are_accepted :
    let key : Key := ⟨⟨⟨"acme"⟩, "orders"⟩, "o-1"⟩
    let reply (realm : Realm (Fin 2)) (site : Fin 2) :=
      ((ordering holder).reply? (realm.database site)).map fun reply => reply.2.isOk
    let opening : Step := .openTransaction .counting .reliable
    let ended := run [(0, opening), (0, .commit .reliable ⟨0⟩)] vacant
    let opened := run [(0, ordering (.new ⟨"acme"⟩)), (0, opening)] vacant
    let written := opened.step 1 (ordering holder)
    let undone := written.step 0 (.rollBack .reliable ⟨0⟩)
    (reply ended 0 = some true ∧
        (((ended.step 0 (ordering holder)).stores 0).get? key).isSome = true) ∧
      reply opened 1 = some true ∧ ((opened.stores 0).get? key).isSome = true ∧
      (undone.stores 0).get? key = none ∧ ((undone.stores 1).get? key).isSome = true := by
  intro key reply opening ended opened written undone
  refine ⟨⟨?_, ?_⟩, ?_, ?_, Option.isNone_iff_eq_none.1 ?_, ?_⟩ <;> decide +kernel

end Realm

end RecordStore
