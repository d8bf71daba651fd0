import RecordStore.Proofs.Transaction.Interleaving
import RecordStore.Proofs.Transaction.Invariant

/-!
# Properties of all records in a session

What every write brings about holds of all records while work is run among the deeds of others, as
it does whatever steps are taken on a database that nobody shares.

* `Deed.has_run`, `Shared.has_call`, `Shared.has_enter`, `Shared.has_leave` — single steps of either
  side;
* `Work.runAmong_has` — a whole session, before each of its moves and at its end.
-/

namespace RecordStore

variable {P : Key → Record → Prop}

/-! ### Deeds -/

/-- A deed keeps what every write brings about. -/
theorem Deed.has_run
    (preserved : ∀ moment tenant (operation : Operation), operation.Preserves P moment tenant)
    {shared : Shared} (h : shared.database.Has P) (deed : Deed) :
    (deed.run shared).database.Has P := by
  cases deed with
  | call | join => exact h.run (preserved _ _ _)
  | openTransaction surroundings backend =>
    have opened := h.openTransaction surroundings backend
    rw [run]
    generalize shared.database.openTransaction surroundings backend = asked at opened
    obtain ⟨answer, database⟩ := asked
    cases answer <;> exact opened
  | adopt surroundings backend => exact h.push rfl
  | mark place =>
    rw [run]
    cases shared.others[place]? with
    | none => exact h
    | some handle => exact h.ending .marked
  | commit backend place =>
    rw [run]
    cases shared.others[place]? with
    | none => exact h
    | some handle => exact h.ending (.committed backend)
  | rollBack backend place =>
    rw [run]
    cases shared.others[place]? with
    | none => exact h
    | some handle => exact h.ending (.rolledBack backend)
  | spoil place =>
    rw [run]
    cases shared.own[place]? with
    | none => exact h
    | some handle => exact h.ending .marked

namespace Shared

variable {shared : Shared}

theorem has_after
    (preserved : ∀ moment tenant (operation : Operation), operation.Preserves P moment tenant)
    (h : shared.database.Has P) (deeds : List Deed) : (shared.after deeds).database.Has P := by
  induction deeds generalizing shared with
  | nil => exact h
  | cons deed rest ih => exact ih (deed.has_run preserved h)

/-! ### Steps of the tenant -/

theorem has_call {operation : Operation}
    (preserved : ∀ moment tenant, operation.Preserves P moment tenant) (h : shared.database.Has P)
    (surroundings : Surroundings) (context : Context) :
    (shared.call surroundings context operation).2.database.Has P :=
  h.run (preserved _ _)

theorem has_mark (h : shared.database.Has P) (context : Context) :
    (shared.mark context).database.Has P := by
  unfold mark
  cases context.transaction with
  | none => exact h
  | some name => exact h.ending .marked

theorem has_enter (h : shared.database.Has P) (manager : Manager) (surroundings : Surroundings)
    (context : Context) : (shared.enter manager surroundings context).2.database.Has P := by
  rcases shared.enter_cases surroundings manager context with same | ⟨e, calls, fault⟩ | opened
  · rw [same]
    exact h
  · rw [fault]
    exact ⟨h.store, h.entries⟩
  · let asked : Calls := { shared.database.calls with opened := shared.database.calls.opened + 1 }
    have kept : { shared.database with calls := asked }.Has P := ⟨h.store, h.entries⟩
    have empty : Transaction.entries ⟨surroundings.transactionId
        shared.database.nextHandle.number, memoryBackend, some [], false⟩ = [] := rfl
    rw [opened]
    exact kept.push empty

theorem has_leave (h : shared.database.Has P) (manager : Manager) (context inside : Context)
    (outcome : Outcome) : (shared.leave manager context inside outcome).2.database.Has P := by
  show (manager.leave (shared.inner context) (shared.inner inside) outcome shared.database).2.Has P
  rcases manager.leave_cases (shared.inner context) (shared.inner inside) outcome shared.database
    with same | ⟨handle, -, ending⟩
  · rw [same]
    exact h
  · exact h.ending ending

end Shared

/-! ### Sessions -/

/-- Every record has a property under its key before each move of a session and at its end. -/
structure Session.Has {σ : Type} (P : Key → Record → Prop) (session : Session σ) : Prop where
  database : session.shared.database.Has P
  moves : ∀ move ∈ session.moves, move.before.Has P

theorem Move.has_singleton {before : Store} (h : before.Has P) (answer : Answer) (after : Store) :
    ∀ move ∈ [(⟨before, answer, after⟩ : Move)], move.before.Has P :=
  List.forall_mem_singleton.2 h

/-- The moves of a unit, with those of its work between its begin and its end. -/
theorem Move.has_unit {before ready : Store} {moves : List Move} (begun : before.Has P)
    (inner : ∀ move ∈ moves, move.before.Has P) (ended : ready.Has P) (start closed : Store)
    (outcome : Outcome) :
    ∀ move ∈ (⟨before, .begun none, start⟩ : Move) :: moves ++ [⟨ready, .ended outcome, closed⟩],
      move.before.Has P :=
  List.forall_mem_append.2
    ⟨List.forall_mem_cons.2 ⟨begun, inner⟩, List.forall_mem_singleton.2 ended⟩

theorem Session.Has.follow {σ : Type} {session : Session σ} (h : session.Has P) {moves : List Move}
    (before : ∀ move ∈ moves, move.before.Has P) : (session.follow moves).Has P :=
  ⟨h.database, List.forall_mem_append.2 ⟨before, h.moves⟩⟩

/-- A session of work keeps what every write brings about. -/
theorem Work.runAmong_has {σ : Type}
    (preserved : ∀ moment tenant (operation : Operation), operation.Preserves P moment tenant)
    (manager : Manager) (readings : Nat → Surroundings) (deeds : Nat → List Deed) (work : Work σ)
    (step : Nat) (own : σ) {shared : Shared} (h : shared.database.Has P) :
    (work.runAmong manager readings deeds step own shared).Has P := by
  -- what others do before a step of the tenant
  have found (n : Nat) {shared : Shared} (h : shared.database.Has P) :
      (shared.after (deeds n)).database.Has P := Shared.has_after preserved h (deeds n)
  induction work generalizing step own shared with
  | done | fail | panic | crash => exact ⟨found step h, nofun⟩
  | note change next ih => exact ih _ step _ h
  | call context operation next ih =>
    have called := Shared.has_call (preserved · · operation) (found step h) (readings step) context
    exact (ih _ (step + 1) own called).follow (Move.has_singleton (found step h).store _ _)
  | look context next ih => exact ih _ (step + 1) own (found step h)
  | mark context next ih => exact ih (step + 1) own (Shared.has_mark (found step h) context)
  | foreign backend next ih => exact ih _ (step + 1) own ((found step h).push rfl)
  | unit context body next ihBody ihNext =>
    have begun := Shared.has_enter (found step h) manager (readings step) context
    have first := Move.has_singleton (found step h).store
    simp only [runAmong]
    cases ((shared.after (deeds step)).enter manager (readings step) context).1 with
    | error e => exact (ihNext _ (step + 1) own begun).follow (first _ _)
    | ok inside =>
      dsimp only
      cases (body inside).crash? with
      | some message => exact ⟨begun, first _ _⟩
      | none =>
        have worked := ihBody inside (step + 1) own begun
        dsimp only
        generalize (body inside).runAmong manager readings deeds (step + 1) own _ = session at worked
        have ready := found session.steps worked.database
        have moves := Move.has_unit (found step h).store worked.moves ready.store
        have closed := Shared.has_leave ready manager context inside session.outcome
        cases ((session.shared.after (deeds session.steps)).leave manager context inside
          session.outcome).1 with
        | done | failed => exact (ihNext _ (session.steps + 1) session.own closed).follow (moves _ _ _)
        | panicked message => exact ⟨closed, moves _ _ _⟩

end RecordStore
