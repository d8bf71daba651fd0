import RecordStore.Proofs.Transaction.Schedule

/-!
# Properties of all records

What every write brings about, or leaves as it is, holds of all records whatever steps are taken in
whatever order. The journals have to be watched, too: a rollback puts records back into the store,
but only such as were stored once.

* `Database.Has` — every record in the store and in the journals has a property under its key;
* `Operation.Preserves` — a write makes no record without the property;
* `Database.Has.runAt`, `Database.Has.push`, `Database.Has.ending` — what single steps preserve;
* `Schedule.has_run` — and what a whole schedule preserves.
-/

namespace RecordStore

variable {P : Key → Record → Prop}

/-! ### The property -/

/-- What is under a key, if there is anything, has a property. -/
def Key.Has (P : Key → Record → Prop) (key : Key) (content : Option Record) : Prop :=
  ∀ record, content = some record → P key record

namespace Store

/-- Every record has a property under its key. -/
def Has (P : Key → Record → Prop) (store : Store) : Prop := ∀ key : Key, key.Has P (store.get? key)

variable {store : Store}

theorem Has.set (h : store.Has P) {key : Key} {content : Option Record}
    (has : key.Has P content) : (store.set key content).Has P := by
  intro other
  rw [get?_set]
  split
  · next same => exact same ▸ has
  · exact h other

/-- Undoing a journal brings back what was stored once. -/
theorem Has.undo (h : store.Has P) {journal : Journal}
    (has : ∀ entry ∈ journal, entry.key.Has P entry.previous) : (journal.undo store).Has P := by
  induction journal generalizing store with
  | nil => exact h
  | cons entry older ih =>
    rw [List.forall_mem_cons] at has
    refine ih ?_ has.2
    rw [entry.restore_eq_set]
    exact h.set has.1

end Store

/-- Every record in the store has a property under its key, and so has every one that a journal
would bring back. -/
structure Database.Has (P : Key → Record → Prop) (database : Database) : Prop where
  store : database.store.Has P
  entries : ∀ handle, ∀ entry ∈ database.entries handle, entry.key.Has P entry.previous

/-! ### Calls -/

namespace Operation

/-- What a write makes of something with a property has the property. -/
def Preserves (P : Key → Record → Prop) (moment : Moment) (tenant : Tenant)
    (operation : Operation) : Prop :=
  ∀ alteration, operation.alteration? moment tenant = some alteration →
    ∀ before, alteration.key.Has P before → ∀ answer after,
      alteration.make before = .ok (answer, after) → alteration.key.Has P after

theorem has_effect {moment : Moment} {tenant : Tenant} {operation : Operation}
    (preserves : operation.Preserves P moment tenant) {store : Store} (h : store.Has P) :
    (operation.effect moment tenant store).store.Has P ∧
      ∀ entry ∈ (operation.effect moment tenant store).entries,
        entry.key.Has P entry.previous := by
  rcases effect_cases moment tenant operation store with
    ⟨reply, reads⟩ | ⟨alteration, alters, answer, after, made, writes⟩
  · rw [reads]
    exact ⟨h, fun _ none => absurd none List.not_mem_nil⟩
  · rw [writes]
    have before := h alteration.key
    exact ⟨h.set (preserves alteration alters _ before answer after made),
      List.forall_mem_singleton.2 before⟩

end Operation

namespace Database.Has

variable {database : Database}

theorem runAt (h : database.Has P) {moment : Moment} {context : Context} {operation : Operation}
    (preserves : operation.Preserves P moment context.tenant) :
    (operation.runAt moment context database).2.Has P := by
  have effect := Operation.has_effect preserves h.store
  constructor
  · rcases operation.runAt_cases moment context database with ⟨e, refused⟩ | settled
    · rw [refused]
      exact h.store
    · rw [settled]
      dsimp only
      rw [store_settle]
      exact effect.1
  · intro handle entry mem
    rcases mem_entries_runAt mem with known | ⟨-, new⟩
    · exact h.entries handle entry known
    · exact effect.2 entry new

theorem run (h : database.Has P) {surroundings : Surroundings} {context : Context}
    {operation : Operation}
    (preserves : operation.Preserves P (surroundings.moment database.moments) context.tenant) :
    (operation.run surroundings context database).2.Has P := by
  have ticked : database.tick.Has P := ⟨h.store, h.entries⟩
  exact ticked.runAt preserves

/-! ### Transactions -/

theorem push (h : database.Has P) {opened : Transaction} (empty : opened.entries = []) :
    (database.push opened).Has P :=
  ⟨h.store, fun handle entry mem => h.entries handle entry (mem_entries_push empty mem)⟩

theorem openTransaction (h : database.Has P) (surroundings : Surroundings) (backend : Backend) :
    (database.openTransaction surroundings backend).2.Has P := by
  have asked : { database with calls := { database.calls with
      opened := database.calls.opened + 1 } }.Has P := ⟨h.store, h.entries⟩
  unfold Database.openTransaction
  cases backend.openFault with
  | none => exact asked.push rfl
  | some e => exact asked

theorem ending (h : database.Has P) {handle : Handle} {after : Database}
    (ending : database.Ending handle after) : after.Has P := by
  refine ⟨?_, fun other entry mem => h.entries other entry (ending.mem_entries mem)⟩
  rcases ending.store_cases with same | undone
  · rw [same]
    exact h.store
  · rw [undone]
    exact h.store.undo (h.entries handle)

end Database.Has

theorem Database.has_empty (P : Key → Record → Prop) : Database.empty.Has P :=
  ⟨fun _ _ => nofun, fun _ _ none => absurd none List.not_mem_nil⟩

/-! ### Schedules -/

/-- A step that is a call preserves a property. -/
def Step.Preserves (P : Key → Record → Prop) : Step → Prop
  | call moment context operation => operation.Preserves P moment context.tenant
  | _ => True

theorem Step.has_run {step : Step} (preserves : step.Preserves P) {database : Database}
    (h : database.Has P) : (step.run database).Has P := by
  cases step with
  | call moment context operation => exact h.runAt preserves
  | openTransaction surroundings backend => exact h.openTransaction surroundings backend
  | adopt surroundings backend => exact h.push rfl
  | mark handle => exact h.ending .marked
  | commit backend handle => exact h.ending (.committed backend)
  | rollBack backend handle => exact h.ending (.rolledBack backend)

theorem Schedule.has_run {schedule : List Step} (preserves : ∀ step ∈ schedule, step.Preserves P)
    {database : Database} (h : database.Has P) : (Schedule.run schedule database).Has P := by
  induction schedule generalizing database with
  | nil => exact h
  | cons step rest ih =>
    rw [List.forall_mem_cons] at preserves
    exact ih preserves.2 (step.has_run preserves.1 h)

end RecordStore
