import RecordStore.Proofs.Record.Merge
import RecordStore.Proofs.Text.Blank
import RecordStore.Proofs.Transaction.Invariant

/-!
# What is stored

Every stored record has the identifier under which it is stored, no field of that name, and its
stamps. A write brings this about whatever is asked of it, and since the journals have only records
that were stored once, undoing them does so, too.

* `Record.StoredUnder` — what is known of a stored record;
* `Database.Reachable` — the databases that calls and transactions can lead to, in any order;
* `Database.Reachable.has_storedUnder` — the invariant, of the records and of those in the journals;
* `Work.run_reachable` — work leads to such databases, with units of work that end in any way;
* `Database.storedUnder_of_reachable` — what all of them store.
-/

namespace RecordStore

/-! ### Stored records -/

namespace Record

/-- What is known of a record that is stored under a key. -/
structure StoredUnder (key : Key) (record : Record) : Prop where
  id : record.id = key.id
  named : Text.trim key.id ≠ ""
  noIdField : record.get? "id" = none
  created : (record.get? createdAt).isSome = true
  updated : ∃ time, record.get? updatedAt = some (.instant time)

/-- Stamping brings about what is missing. -/
theorem storedUnder_touch {record : Record} {key : Key} (id : record.id = key.id)
    (named : Text.trim key.id ≠ "") (noIdField : record.get? "id" = none) (now : Timestamp) :
    (record.touch now).StoredUnder key where
  id := id
  named := named
  noIdField := by
    rw [get?_touch, if_neg (by decide), if_neg (by decide), noIdField]
  created := by
    rw [get?_touch, if_neg (by decide), if_pos rfl]
    cases record.get? createdAt <;> rfl
  updated := ⟨now, by rw [get?_touch, if_pos rfl]⟩

/-- A record that is created is stamped under an identifier that is not blank. -/
theorem prepared_cases (record : Record) {moment : Moment}
    (fresh : Text.trim moment.freshId ≠ "") :
    ∃ named : Record, record.prepared moment = named.touch moment.now ∧
      Text.trim named.id ≠ "" ∧ named.fields = record.fields := by
  unfold prepared
  cases blank : Text.isBlankText record.id with
  | true => exact ⟨{ record with id := moment.freshId }, rfl, fresh, rfl⟩
  | false =>
    have named : Text.trim record.id ≠ "" := fun empty => by
      rw [Text.isBlankText_iff.2 empty] at blank
      exact nomatch blank
    exact ⟨record, rfl, named, rfl⟩

theorem storedUnder_prepared {record : Record} {moment : Moment}
    (fresh : Text.trim moment.freshId ≠ "") (noIdField : record.get? "id" = none) (place : Place) :
    (record.prepared moment).StoredUnder ⟨place, (record.prepared moment).id⟩ := by
  obtain ⟨named, prepared, notBlank, fields⟩ := record.prepared_cases fresh
  have noIdField : named.get? "id" = none := by rw [get?, fields]; exact noIdField
  have key : named.id = (⟨place, named.id⟩ : Key).id := rfl
  rw [prepared]
  exact storedUnder_touch key notBlank noIdField moment.now

end Record

/-! ### Calls -/

namespace Operation

/-- A record that is created has no field with the name of the identifier, as the record operations
never make one. -/
def Proper : Operation → Prop
  | create _ record => record.get? "id" = none
  | _ => True

variable {moment : Moment} {tenant : Tenant} {operation : Operation}

/-- What a write makes of a record that may be stored may be stored, too. -/
theorem preserves_storedUnder (proper : operation.Proper) (fresh : Text.trim moment.freshId ≠ "")
    (tenant : Tenant) :
    operation.Preserves (fun key record => record.StoredUnder key) moment tenant := by
  intro alteration alters before has answer after made
  cases operation with
  | create table record =>
    obtain rfl := Option.some.inj alters
    cases before with
    | some old => exact nomatch made
    | none =>
      cases made
      intro stored same
      cases same
      exact Record.storedUnder_prepared fresh proper ⟨tenant, table⟩
  | update table id patch =>
    obtain rfl := Option.some.inj alters
    cases before with
    | none => exact nomatch made
    | some old =>
      cases made
      have stored := has old rfl
      have noIdField : (old.merge patch).get? "id" = none :=
        (old.get?_id_merge patch).trans stored.noIdField
      -- a partial update leaves the identifier alone
      have id : (old.merge patch).id = id := stored.id
      intro revised same
      cases same
      exact Record.storedUnder_touch id stored.named noIdField moment.now
  | delete table id =>
    obtain rfl := Option.some.inj alters
    cases before with
    | none => exact nomatch made
    | some old =>
      cases made
      exact fun _ => nofun
  | read | list | query | snapshot | count => exact nomatch alters

/-- A call that fails leaves every record as it is, in a transaction and outside of one. -/
theorem store_run_of_error {surroundings : Surroundings} {context : Context} {database : Database}
    {e : StoreError} (failed : (operation.run surroundings context database).1 = .error e) :
    (operation.run surroundings context database).2.store = database.store := by
  rcases operation.run_cases surroundings context database with ⟨e, refused⟩ | settled
  · rw [refused]
    rfl
  · rw [settled] at failed ⊢
    dsimp only
    rw [Database.store_settle]
    exact store_effect_of_error failed

end Operation

/-- The identifiers that the surroundings supply for records are not blank. -/
def Surroundings.Fresh (surroundings : Surroundings) : Prop :=
  ∀ n, Text.trim (surroundings.moment n).freshId ≠ ""

/-! ### Reachable databases -/

namespace Database

/-- The databases that can be reached from the one without records: by calls in any context, and by
opening, committing, rolling back and marking transactions, each at any time. -/
inductive Reachable : Database → Prop where
  | empty : Reachable .empty
  | call {database : Database} (before : Reachable database) {surroundings : Surroundings}
    (fresh : surroundings.Fresh) (context : Context) {operation : Operation}
    (proper : operation.Proper) : Reachable (operation.run surroundings context database).2
  | opened {database : Database} (before : Reachable database) (surroundings : Surroundings)
    (backend : Backend) : Reachable (database.openTransaction surroundings backend).2
  | committed {database : Database} (before : Reachable database) (backend : Backend)
    (handle : Handle) : Reachable (database.commit backend handle).2
  | rolledBack {database : Database} (before : Reachable database) (backend : Backend)
    (handle : Handle) : Reachable (database.rollBack backend handle)
  | marked {database : Database} (before : Reachable database) (handle : Handle) :
    Reachable (database.mark handle)
  | adopted {database : Database} (before : Reachable database) (surroundings : Surroundings)
    (backend : String) : Reachable (database.adopt surroundings backend none).1

/-- In a database that can be reached this is known of every record, also of those that the journals
would bring back. -/
theorem Reachable.has_storedUnder {database : Database} (h : database.Reachable) :
    database.Has fun key record => record.StoredUnder key := by
  induction h with
  | empty => exact has_empty _
  | @call database _ _ fresh context _ proper ih =>
    exact ih.run (Operation.preserves_storedUnder proper (fresh database.moments) context.tenant)
  | opened _ surroundings backend ih => exact ih.openTransaction surroundings backend
  | committed _ backend handle ih => exact ih.ending (.committed backend)
  | rolledBack _ backend handle ih => exact ih.ending (.rolledBack backend)
  | marked _ handle ih => exact ih.ending .marked
  | adopted _ surroundings backend ih => exact ih.push rfl

end Database

/-! ### Work -/

namespace Manager

theorem enter_reachable {database : Database} (h : database.Reachable) (manager : Manager)
    (surroundings : Surroundings) (context : Context) :
    (manager.enter surroundings context database).2.Reachable := by
  cases manager with
  | direct => exact h
  | transactional backend =>
    cases inside : context.transaction with
    | some handle => rw [enter_of_inside inside]; exact h
    | none =>
      have opened := h.opened surroundings backend
      simp only [enter, inside]
      rcases hopen : database.openTransaction surroundings backend with ⟨answer, after⟩
      rw [hopen] at opened
      cases answer <;> exact opened

theorem leave_reachable {database : Database} (h : database.Reachable) (manager : Manager)
    (context inner : Context) (outcome : Outcome) :
    (manager.leave context inner outcome database).2.Reachable := by
  rcases manager.leave_cases context inner outcome database with same | ⟨handle, -, ending⟩
  · rw [same]
    exact h
  · generalize (manager.leave context inner outcome database).2 = after at ending
    cases ending with
    | marked => exact h.marked handle
    | committed backend => exact h.committed backend handle
    | rolledBack backend => exact h.rolledBack backend handle

end Manager

namespace Work

variable {σ : Type}

/-- Work whose calls are all proper. -/
def Proper : Work σ → Prop
  | done => True
  | fail _ => True
  | panic _ => True
  | crash _ => True
  | note _ next => ∀ own, (next own).Proper
  | call _ operation next => operation.Proper ∧ ∀ reply, (next reply).Proper
  | look _ next => ∀ transaction, (next transaction).Proper
  | mark _ next => next.Proper
  | foreign _ next => ∀ handle, (next handle).Proper
  | unit _ body next => (∀ context, (body context).Proper) ∧ ∀ reply, (next reply).Proper

/-- Work leads from a reachable database to a reachable one, however it and its units end. -/
theorem run_reachable {work : Work σ} (proper : work.Proper) (manager : Manager)
    {surroundings : Surroundings} (fresh : surroundings.Fresh) (own : σ) {database : Database}
    (h : database.Reachable) : (work.run manager surroundings own database).2.2.Reachable := by
  induction work generalizing own database with
  | done | fail | panic | crash => exact h
  | note change next ih => exact ih _ (proper _) _ h
  | call context operation next ih =>
    exact ih _ (proper.2 _) own (h.call fresh context proper.1)
  | look context next ih => exact ih _ (proper _) own h
  | mark context next ih =>
    rw [run]
    cases context.transaction with
    | none => exact ih proper own h
    | some handle => exact ih proper own (h.marked handle)
  | foreign backend next ih => exact ih _ (proper _) own (h.adopted surroundings backend)
  | unit context body next ihBody ihNext =>
    rw [run]
    have entered := Manager.enter_reachable h manager surroundings context
    generalize manager.enter surroundings context database = entry at entered
    obtain ⟨answer, begun⟩ := entry
    cases answer with
    | error e => exact ihNext _ (proper.2 _) own entered
    | ok inner =>
      cases crashes : (body inner).crash? with
      | some message =>
        simp only [crashes]
        exact entered
      | none =>
        have worked := ihBody inner (proper.1 inner) own entered
        simp only [crashes]
        generalize (body inner).run manager surroundings own begun = ended at worked
        obtain ⟨outcome, own', after⟩ := ended
        have left := Manager.leave_reachable worked manager context inner outcome
        dsimp only
        generalize manager.leave context inner outcome after = exit at left
        obtain ⟨result, closed⟩ := exit
        cases result with
        | done => exact ihNext _ (proper.2 _) own' left
        | failed e => exact ihNext _ (proper.2 _) own' left
        | panicked message => exact left

end Work

namespace Database

/-- Every record that is stored in a database that can be reached has the identifier under which it
is stored, which is not blank, no field of that name, and its stamps. A call on such a database that
fails leaves all records as they are, and work on it leads to such a database again. -/
theorem storedUnder_of_reachable {database : Database} (reachable : database.Reachable) :
    (∀ key record, database.store.get? key = some record → record.StoredUnder key) ∧
      (∀ (surroundings : Surroundings) (context : Context) (operation : Operation) (e : StoreError),
        (operation.run surroundings context database).1 = .error e → ∀ key,
          (operation.run surroundings context database).2.store.get? key =
            database.store.get? key) ∧
      ∀ {σ : Type} (work : Work σ), work.Proper → ∀ (manager : Manager)
        (surroundings : Surroundings), surroundings.Fresh → ∀ own : σ,
          (work.run manager surroundings own database).2.2.Reachable := by
  refine ⟨fun key => reachable.has_storedUnder.store key, ?_, ?_⟩
  · intro surroundings context operation e failed key
    rw [operation.store_run_of_error failed]
  · intro σ work proper manager surroundings fresh own
    exact work.run_reachable proper manager fresh own reachable

/-- Work that creates an order without an identifier, removes it in a unit that panics, and then
asks for another identifier and other stamps. -/
def revising (context : Context) : Work Unit :=
  .call context (.create "orders" (.new " ")) fun _ =>
    .unit context
      (fun inner => .call inner (.delete "orders" "o-1") fun _ => .panic "boom") fun _ =>
      .call context (.update "orders" "o-1"
        (.ofList [("id", .text "o-2"), (createdAt, .null), (updatedAt, .text "never")])) fun _ =>
        .done

/-- Surroundings that supply one identifier only, and a time for each call. -/
def frugal : Surroundings := ⟨fun n => ⟨.ofSeconds n, "o-1", .byId⟩, toString⟩

/-- The database to which that work leads. -/
def revised : Database :=
  ((revising (.new ⟨"acme"⟩)).run (.transactional .reliable) frugal () .empty).2.2

/-- The order is there, under the identifier that it was given, and with its stamps. -/
theorem revised_storedUnder :
    let key : Key := ⟨⟨⟨"acme"⟩, "orders"⟩, "o-1"⟩
    revised.Reachable ∧
      ∃ record, revised.store.get? key = some record ∧ record.StoredUnder key := by
  intro key
  have fresh : frugal.Fresh := fun n => by
    show Text.trim "o-1" ≠ ""
    decide
  have proper : (revising (.new ⟨"acme"⟩)).Proper :=
    ⟨rfl, fun _ => ⟨fun _ => ⟨trivial, fun _ => trivial⟩, fun _ => ⟨trivial, fun _ => trivial⟩⟩⟩
  have reachable : revised.Reachable :=
    (storedUnder_of_reachable .empty).2.2 _ proper (.transactional .reliable) frugal fresh ()
  have there : (revised.store.get? ⟨⟨⟨"acme"⟩, "orders"⟩, "o-1"⟩).isSome = true := rfl
  obtain ⟨record, found⟩ := Option.isSome_iff_exists.1 there
  exact ⟨reachable, record, found, (storedUnder_of_reachable reachable).1 key record found⟩

end Database

end RecordStore
