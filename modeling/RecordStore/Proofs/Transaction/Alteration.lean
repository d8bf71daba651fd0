import Mathlib.Data.Set.Insert
import RecordStore.Proofs.Store.Write
import RecordStore.Proofs.Transaction.Effect

/-!
# What a call can do

A call that writes is an alteration of the record under one key. So what a call does is settled by
the tables of its tenant, no other tables change, a call that fails changes nothing at all, and what
it has changed is taken back by its entry.

* `Operation.alteration?` — the alteration of a write, with `Operation.writes` and
  `Operation.effect_eq_alteration`;
* `Operation.effect_congr` — the tables of the tenant settle the effect of a call;
* `Operation.keys` — the keys that matter for a call, and `Operation.effect_undo` — it goes along
  with undoing a journal for other keys;
* `Operation.effect_cases` — all that a call can do to a store, and `Operation.target?` — where;
* `Operation.eqOn_effect`, `Operation.store_effect_of_error` — what a call leaves alone;
* `Operation.restore_effect` — its entry takes it back.
-/

namespace RecordStore

namespace Alteration

variable {α : Type}

/-- The effect of an alteration; its entry has the record that was there before. -/
def effect (alteration : Alteration α) (store : Store) : Effect α := .writing store alteration.change

theorem effect_of_error {alteration : Alteration α} {store : Store} {e : StoreError}
    (h : alteration.make (store.get? alteration.key) = .error e) :
    alteration.effect store = ⟨.error e, store, none⟩ := by
  simp only [effect, Effect.writing, change, h]

theorem effect_of_ok {alteration : Alteration α} {store : Store} {answer : α}
    {after : Option Record}
    (h : alteration.make (store.get? alteration.key) = .ok (answer, after)) :
    alteration.effect store = ⟨.ok answer, store.set alteration.key after,
      some ⟨alteration.key, store.get? alteration.key⟩⟩ := by
  simp only [effect, Effect.writing, change, h]

end Alteration

/-- The database after a moment has been used. -/
def Database.tick (database : Database) : Database :=
  { database with moments := database.moments + 1 }

namespace Operation

/-- The alteration that a write is; the other calls only read. -/
def alteration? (moment : Moment) (tenant : Tenant) :
    (operation : Operation) → Option (Alteration operation.Reply)
  | create table record => some (Store.creation ⟨tenant, table⟩ moment record)
  | update table id patch => some (Store.revision ⟨tenant, table⟩ moment id patch)
  | delete table id => some (Store.removal ⟨tenant, table⟩ id)
  | read .. | list .. | query .. | snapshot _ | count _ => none

variable {moment : Moment} {tenant : Tenant} {operation : Operation}

/-- Whether a call may change records. -/
def writes : Operation → Bool
  | create .. | update .. | delete .. => true
  | read .. | list .. | query .. | snapshot _ | count _ => false

theorem exists_alteration (writes : operation.writes = true) (moment : Moment) (tenant : Tenant) :
    ∃ alteration, operation.alteration? moment tenant = some alteration := by
  cases operation with
  | create | update | delete => exact ⟨_, rfl⟩
  | read | list | query | snapshot | count => exact nomatch writes

theorem alteration_eq_none (reads : operation.writes = false) (moment : Moment) (tenant : Tenant) :
    operation.alteration? moment tenant = none := by
  cases operation with
  | create | update | delete => exact nomatch reads
  | read | list | query | snapshot | count => rfl

/-- The effect of a write is that of its alteration. -/
theorem effect_eq_alteration {alteration : Alteration operation.Reply}
    (h : operation.alteration? moment tenant = some alteration) (store : Store) :
    operation.effect moment tenant store = alteration.effect store := by
  cases operation with
  | create table record =>
    obtain rfl := Option.some.inj h
    exact congrArg (Effect.writing store)
      (funext fun store => store.create_eq ⟨tenant, table⟩ moment record)
  | update table id patch =>
    obtain rfl := Option.some.inj h
    exact congrArg (Effect.writing store)
      (funext fun store => store.update_eq ⟨tenant, table⟩ moment id patch)
  | delete table id =>
    obtain rfl := Option.some.inj h
    exact congrArg (Effect.writing store)
      (funext fun store => store.delete_eq ⟨tenant, table⟩ id)
  | read | list | query | snapshot | count => cases h

/-- A call that is no write leaves the store as it is. -/
theorem effect_eq_reading (h : operation.alteration? moment tenant = none) (store : Store) :
    operation.effect moment tenant store =
      .reading store (operation.effect moment tenant store).reply := by
  cases operation with
  | create | update | delete => exact nomatch h
  | read | list | query | snapshot | count => rfl

/-- A call that only reads has its effect in every context. -/
theorem runAt_of_reading (context : Context)
    (h : operation.alteration? moment context.tenant = none) (database : Database) :
    operation.runAt moment context database =
      ((operation.effect moment context.tenant database.store).reply,
        database.settle context (operation.effect moment context.tenant database.store)) := by
  cases operation with
  | create | update | delete => exact nomatch h
  | read | list | query | snapshot | count => rfl

/-- In a context that may not write a write is refused. -/
theorem runAt_of_refused (context : Context) {alteration : Alteration operation.Reply}
    (h : operation.alteration? moment context.tenant = some alteration) (database : Database)
    {e : StoreError} (refused : database.checkWritable context = .error e) :
    operation.runAt moment context database = (.error e, database) := by
  cases operation with
  | create | update | delete =>
    unfold runAt
    exact database.write_of_refused context refused _
  | read | list | query | snapshot | count => exact nomatch h

/-- A call is refused and uses a moment only, or it has its effect. -/
theorem run_cases (surroundings : Surroundings) (context : Context) (database : Database)
    (operation : Operation) :
    (∃ e, operation.run surroundings context database = (.error e, database.tick)) ∨
      operation.run surroundings context database =
        let effect := operation.effect (surroundings.moment database.moments) context.tenant
          database.store
        (effect.reply, database.tick.settle context effect) :=
  runAt_cases (surroundings.moment database.moments) context database.tick operation

/-- A write is made on a table of the tenant. -/
theorem key_mem_of_alteration {alteration : Alteration operation.Reply}
    (h : operation.alteration? moment tenant = some alteration) :
    alteration.key ∈ tenant.keys := by
  cases operation with
  | create | update | delete =>
    obtain rfl := Option.some.inj h
    rfl
  | read | list | query | snapshot | count => exact nomatch h

/-- The keys that matter for a call: that of its record, or those of its table. -/
def keys (moment : Moment) (tenant : Tenant) : Operation → Set Key
  | create table record => {⟨⟨tenant, table⟩, (record.prepared moment).id⟩}
  | read table id | update table id _ | delete table id => {⟨⟨tenant, table⟩, id⟩}
  | list table _ | query table _ | snapshot table | count table =>
    {key | key.place = ⟨tenant, table⟩}

theorem mem_keys_of_alteration {alteration : Alteration operation.Reply}
    (h : operation.alteration? moment tenant = some alteration) :
    alteration.key ∈ operation.keys moment tenant := by
  cases operation with
  | create | update | delete =>
    obtain rfl := Option.some.inj h
    exact Set.mem_singleton _
  | read | list | query | snapshot | count => exact nomatch h

theorem keys_subset (moment : Moment) (tenant : Tenant) (operation : Operation) :
    operation.keys moment tenant ⊆ tenant.keys := by
  intro key mem
  cases operation with
  | create | read | update | delete =>
    obtain rfl := Set.mem_singleton_iff.1 mem
    rfl
  | list table | query table | snapshot table | count table =>
    have here : key.place = ⟨tenant, table⟩ := mem
    show key.place.tenant = tenant
    rw [here]

/-- What a call that only reads answers is settled by what is under its keys. -/
theorem reply_congr {a b : Store} (h : operation.alteration? moment tenant = none)
    (agree : Store.EqOn (operation.keys moment tenant) a b) :
    (operation.effect moment tenant a).reply = (operation.effect moment tenant b).reply := by
  cases operation with
  | create | update | delete => exact nomatch h
  | read table id =>
    have found : a.get? ⟨⟨tenant, table⟩, id⟩ = b.get? ⟨⟨tenant, table⟩, id⟩ := agree _ rfl
    show a.read ⟨tenant, table⟩ id = b.read ⟨tenant, table⟩ id
    rw [Store.read, Store.read, found]
  | list table params =>
    have rows : a.table ⟨tenant, table⟩ = b.table ⟨tenant, table⟩ := agree.table_eq
    show a.list ⟨tenant, table⟩ moment.arrangement params =
      b.list ⟨tenant, table⟩ moment.arrangement params
    rw [Store.list, Store.list, Store.snapshot, Store.snapshot, rows]
  | query table statement =>
    have rows : a.table ⟨tenant, table⟩ = b.table ⟨tenant, table⟩ := agree.table_eq
    show a.query ⟨tenant, table⟩ moment.arrangement statement =
      b.query ⟨tenant, table⟩ moment.arrangement statement
    rw [Store.query, Store.query, Store.snapshot, Store.snapshot, rows]
  | snapshot table =>
    have rows : a.table ⟨tenant, table⟩ = b.table ⟨tenant, table⟩ := agree.table_eq
    exact congrArg (fun rows => Except.ok (moment.arrangement.apply rows)) rows
  | count table =>
    have rows : a.table ⟨tenant, table⟩ = b.table ⟨tenant, table⟩ := agree.table_eq
    exact congrArg (fun rows : List Record => Except.ok rows.length) rows

/-- The tables of the tenant settle the answer of a call, its entry, and what it leaves in them. -/
theorem effect_congr {a b : Store} (agree : Store.EqOn tenant.keys a b) (moment : Moment)
    (operation : Operation) :
    (operation.effect moment tenant a).reply = (operation.effect moment tenant b).reply ∧
      (operation.effect moment tenant a).undo = (operation.effect moment tenant b).undo ∧
      Store.EqOn tenant.keys (operation.effect moment tenant a).store
        (operation.effect moment tenant b).store := by
  cases h : operation.alteration? moment tenant with
  | none =>
    refine ⟨reply_congr h (agree.mono (operation.keys_subset moment tenant)), ?_⟩
    rw [effect_eq_reading h a, effect_eq_reading h b]
    exact ⟨rfl, agree⟩
  | some alteration =>
    have here := agree _ (key_mem_of_alteration h)
    rw [effect_eq_alteration h a, effect_eq_alteration h b]
    -- both stores have the same record under the key, so that the same is made of it
    cases made : alteration.make (a.get? alteration.key) with
    | error e =>
      rw [Alteration.effect_of_error made, Alteration.effect_of_error (here ▸ made)]
      exact ⟨rfl, rfl, agree⟩
    | ok result =>
      obtain ⟨answer, after⟩ := result
      rw [Alteration.effect_of_ok made, Alteration.effect_of_ok (here ▸ made), here]
      exact ⟨rfl, rfl, agree.set _ _⟩

/-- A call leaves the store as it is, or it puts what it makes of a record in its place. -/
theorem effect_cases (moment : Moment) (tenant : Tenant) (operation : Operation) (store : Store) :
    (∃ reply, operation.effect moment tenant store = .reading store reply) ∨
      ∃ alteration, operation.alteration? moment tenant = some alteration ∧
        ∃ answer after, alteration.make (store.get? alteration.key) = .ok (answer, after) ∧
          operation.effect moment tenant store = ⟨.ok answer, store.set alteration.key after,
            some ⟨alteration.key, store.get? alteration.key⟩⟩ := by
  cases h : operation.alteration? moment tenant with
  | none => exact .inl ⟨_, effect_eq_reading h store⟩
  | some alteration =>
    rw [effect_eq_alteration h]
    cases made : alteration.make (store.get? alteration.key) with
    | error e => exact .inl ⟨_, Alteration.effect_of_error made⟩
    | ok result => exact .inr ⟨alteration, rfl, _, _, made, Alteration.effect_of_ok made⟩

/-- A call goes along with undoing a journal that has no entries for its keys. -/
theorem effect_undo {journal : Journal}
    (apart : ∀ entry ∈ journal, entry.key ∉ operation.keys moment tenant) (store : Store) :
    operation.effect moment tenant (journal.undo store) =
      let effect := operation.effect moment tenant store
      ⟨effect.reply, journal.undo effect.store, effect.undo⟩ := by
  have agree := Store.eqOn_undo apart store
  cases h : operation.alteration? moment tenant with
  | none =>
    rw [effect_eq_reading h, effect_eq_reading h store, reply_congr h agree]
    rfl
  | some alteration =>
    have key := mem_keys_of_alteration h
    have here := agree _ key
    rw [effect_eq_alteration h, effect_eq_alteration h]
    cases made : alteration.make (store.get? alteration.key) with
    | error e => rw [Alteration.effect_of_error made, Alteration.effect_of_error (here ▸ made)]
    | ok result =>
      obtain ⟨answer, after⟩ := result
      have free : ∀ entry ∈ journal, entry.key ≠ alteration.key :=
        fun entry mem same => apart entry mem (same ▸ key)
      rw [Alteration.effect_of_ok made, Alteration.effect_of_ok (here ▸ made), here]
      simp only [Store.undo_set free]

/-- A call changes nothing outside of the tables of its tenant. -/
theorem eqOn_effect (moment : Moment) (tenant : Tenant) (operation : Operation) (store : Store) :
    Store.EqOn tenant.keysᶜ (operation.effect moment tenant store).store store := by
  rcases effect_cases moment tenant operation store with
    ⟨reply, h⟩ | ⟨alteration, alters, _, _, _, h⟩
  · rw [h]
    exact .refl _ store
  · rw [h]
    exact Store.eqOn_set (not_not_intro (key_mem_of_alteration alters)) store _

/-- The key that a write is made on. -/
def target? (moment : Moment) (tenant : Tenant) (operation : Operation) : Option Key :=
  (operation.alteration? moment tenant).map Alteration.key

/-- The entry of a call is one for the key that it is made on. -/
theorem target_of_entries {store : Store} {entry : UndoEntry}
    (h : entry ∈ (operation.effect moment tenant store).entries) :
    operation.target? moment tenant = some entry.key := by
  rcases effect_cases moment tenant operation store with
    ⟨reply, reads⟩ | ⟨alteration, alters, _, _, _, writes⟩
  · rw [reads] at h
    exact absurd h List.not_mem_nil
  · rw [writes] at h
    obtain rfl := List.mem_singleton.1 h
    rw [target?, alters, Option.map_some]

/-- It is one for a table of the tenant. -/
theorem key_mem_of_entries (moment : Moment) (tenant : Tenant) (operation : Operation)
    (store : Store) :
    ∀ entry ∈ (operation.effect moment tenant store).entries, entry.key ∈ tenant.keys := by
  intro entry mem
  obtain ⟨alteration, alters, same⟩ := Option.map_eq_some_iff.1 (target_of_entries mem)
  exact same ▸ key_mem_of_alteration alters

/-- What a call has changed is taken back by its entry. -/
theorem restore_effect (moment : Moment) (tenant : Tenant) (store : Store)
    (operation : Operation) : (operation.effect moment tenant store).restored = store := by
  rcases effect_cases moment tenant operation store with
    ⟨reply, h⟩ | ⟨alteration, -, _, _, made, h⟩
  · rw [h]
    rfl
  · rw [h]
    exact Alteration.restore_undo (Alteration.change_eq_ok_iff.2 ⟨_, _, made, rfl⟩)

/-- A call that fails changes nothing. -/
theorem store_effect_of_error {store : Store} {e : StoreError}
    (failed : (operation.effect moment tenant store).reply = .error e) :
    (operation.effect moment tenant store).store = store := by
  rcases effect_cases moment tenant operation store with ⟨reply, h⟩ | ⟨_, _, _, _, _, h⟩
  · rw [h]
    rfl
  · rw [h] at failed
    exact nomatch failed

end Operation

end RecordStore
