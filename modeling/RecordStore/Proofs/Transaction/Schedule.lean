import RecordStore.Proofs.Transaction.Journals

/-!
# Schedules

Whoever uses a database takes steps on it, and each step is taken as a whole. The order in which the
steps of all of them come is a schedule. No step changes which backend has opened a transaction, and
what enters a journal comes from calls in its transaction.

* `Step` — the steps, with `Step.run` and `Step.reply?` for what they do and answer;
* `Schedule.run`, `Schedule.replies` — a whole schedule, and what those hear who listen to some of
  its steps;
* `Transaction.origin` — what stays of a transaction, with `Step.origin_run`;
* `Step.mem_entries` — where the entries of journals come from.
-/

namespace RecordStore

/-- A step that somebody takes on a database. A call has a moment of its own. -/
inductive Step where
  | call (moment : Moment) (context : Context) (operation : Operation)
  | openTransaction (surroundings : Surroundings) (backend : Backend)
  | adopt (surroundings : Surroundings) (backend : String)
  | mark (handle : Handle)
  | commit (backend : Backend) (handle : Handle)
  | rollBack (backend : Backend) (handle : Handle)

namespace Step

/-- What a step makes of a database. -/
def run : Step → Database → Database
  | call moment context operation, database => (operation.runAt moment context database).2
  | openTransaction surroundings backend, database =>
    (database.openTransaction surroundings backend).2
  | adopt surroundings backend, database => (database.adopt surroundings backend none).1
  | mark handle, database => database.mark handle
  | commit backend handle, database => (database.commit backend handle).2
  | rollBack backend handle, database => database.rollBack backend handle

/-- A call and its answer. -/
abbrev Reply := (operation : Operation) × Except StoreError operation.Reply

/-- The answer of a step that is a call. -/
def reply? : Step → Database → Option Reply
  | call moment context operation, database =>
    some ⟨operation, (operation.runAt moment context database).1⟩
  | _, _ => none

/-- Whether a step is a call in the transaction of a handle. -/
def isIn (handle : Handle) : Step → Bool
  | call _ context _ => context.transaction == some handle
  | _ => false

theorem isIn_eq_false_of_ne {step : Step} {handle other : Handle} (apart : other ≠ handle)
    (inside : step.isIn other = true) : step.isIn handle = false := by
  cases step with
  | call moment context operation =>
    have there : context.transaction = some other := beq_iff_eq.1 inside
    simpa [isIn, there] using apart
  | openTransaction | adopt | mark | commit | rollBack => rfl

/-- The step ends the transaction of a handle. -/
def Ends (handle : Handle) : Step → Prop
  | commit _ other => other = handle
  | rollBack _ other => other = handle
  | _ => False

/-- The keys that matter for a step that is a call. -/
def keys : Step → Set Key
  | call moment context operation => operation.keys moment context.tenant
  | _ => ∅

/-- The key that a step writes to. -/
def target? : Step → Option Key
  | call moment context operation => operation.target? moment context.tenant
  | _ => none

theorem target_mem (step : Step) {key : Key} (h : key ∈ step.target?) : key ∈ step.keys := by
  cases step with
  | call moment context operation =>
    obtain ⟨alteration, alters, rfl⟩ := Option.map_eq_some_iff.1 h
    exact Operation.mem_keys_of_alteration alters
  | openTransaction | adopt | mark | commit | rollBack => exact nomatch h

end Step

namespace Schedule

/-- Take the steps of a schedule one after the other. -/
def run (schedule : List Step) (database : Database) : Database :=
  schedule.foldl (fun database step => step.run database) database

@[simp] theorem run_nil (database : Database) : run [] database = database := rfl

@[simp] theorem run_cons (step : Step) (schedule : List Step) (database : Database) :
    run (step :: schedule) database = run schedule (step.run database) := rfl

/-- The answers that somebody hears who listens to some of the steps. -/
def replies (heard : Step → Bool) : List Step → Database → List Step.Reply
  | [], _ => []
  | step :: schedule, database =>
    (if heard step then (step.reply? database).toList else []) ++
      replies heard schedule (step.run database)

end Schedule

/-! ### What stays of a transaction -/

/-- What stays of a transaction whatever becomes of it: its identifier, the backend that opened it,
and whether it has a journal. -/
def Transaction.origin (transaction : Transaction) : String × String × Bool :=
  (transaction.id, transaction.backend, transaction.journal.isSome)

namespace Database

/-- What stays of the transaction of a handle. -/
def origin? (database : Database) (handle : Handle) : Option (String × String × Bool) :=
  (database.transaction? handle).map Transaction.origin

theorem origin?_modify {change : Transaction → Transaction}
    (keeps : ∀ t, (change t).origin = t.origin) (database : Database) (handle other : Handle) :
    (database.modify handle change).origin? other = database.origin? other := by
  rw [origin?, origin?, transaction?_modify]
  split
  · rw [Option.map_map]
    exact congrArg (Option.map · _) (funext keeps)
  · rfl

/-- A transaction that is known is not the one that is opened next. -/
theorem ne_nextHandle {database : Database} {handle : Handle}
    (known : (database.origin? handle).isSome) : handle ≠ database.nextHandle := by
  rintro rfl
  simp [origin?, transaction?, nextHandle] at known

theorem origin?_push {database : Database} {handle : Handle}
    (known : (database.origin? handle).isSome) (opened : Transaction) :
    (database.push opened).origin? handle = database.origin? handle := by
  rw [origin?, origin?, transaction?_push, if_neg (ne_nextHandle known)]

theorem origin?_settle {α : Type} (database : Database) (context : Context) (effect : Effect α)
    (handle : Handle) :
    (database.settle context effect).origin? handle = database.origin? handle := by
  rw [origin?, origin?, transaction?_settle, Option.map_map]
  refine congrArg (Option.map · _) (funext fun t => ?_)
  by_cases inside : context.transaction = some handle <;> simp [inside, Transaction.origin]

end Database

theorem Transaction.origin_cleared (transaction : Transaction) :
    transaction.cleared.origin = transaction.origin := by
  simp [cleared, origin]

/-- A step leaves alone who has opened a transaction. -/
theorem Step.origin_run (step : Step) {database : Database} {handle : Handle}
    (known : (database.origin? handle).isSome) :
    (step.run database).origin? handle = database.origin? handle := by
  cases step with
  | call moment context operation =>
    show (operation.runAt moment context database).2.origin? handle = _
    rcases operation.runAt_cases moment context database with ⟨e, refused⟩ | settled
    · rw [refused]
    · rw [settled]
      exact database.origin?_settle context _ handle
  | openTransaction surroundings backend =>
    show (database.openTransaction surroundings backend).2.origin? handle = _
    rw [Database.snd_openTransaction]
    dsimp only
    split
    · exact Database.origin?_push known _
    · rfl
  | adopt surroundings backend => exact Database.origin?_push known _
  | mark other =>
    have kept (t : Transaction) : { t with rollbackOnly := true }.origin = t.origin := rfl
    exact Database.origin?_modify kept database other handle
  | commit backend other =>
    show (database.commit backend other).2.origin? handle = _
    rw [Database.snd_commit]
    dsimp only
    split
    · exact Database.origin?_modify Transaction.origin_cleared _ other handle
    · rfl
  | rollBack backend other =>
    show (database.rollBack backend other).origin? handle = _
    rw [Database.rollBack_eq]
    dsimp only
    split
    · exact Database.origin?_modify Transaction.origin_cleared _ other handle
    · rfl

/-! ### Where entries come from -/

/-- A step adds no other entries to journals than those of a call to that of its transaction. -/
theorem Step.mem_entries {step : Step} {database : Database} {handle : Handle} {entry : UndoEntry}
    (h : entry ∈ (step.run database).entries handle) :
    entry ∈ database.entries handle ∨ step.isIn handle = true ∧ step.target? = some entry.key := by
  cases step with
  | call moment context operation =>
    rcases Database.mem_entries_runAt h with known | ⟨inside, new⟩
    · exact .inl known
    · exact .inr ⟨beq_iff_eq.2 inside, Operation.target_of_entries new⟩
  | openTransaction surroundings backend =>
    have opened : entry ∈ (database.openTransaction surroundings backend).2.entries handle := h
    rw [Database.snd_openTransaction] at opened
    dsimp only at opened
    split at opened
    · have known := Database.mem_entries_push rfl opened
      exact .inl known
    · exact .inl opened
  | adopt surroundings backend => exact .inl (Database.mem_entries_push rfl h)
  | mark other => exact .inl (Database.Ending.marked.mem_entries h)
  | commit backend other => exact .inl ((Database.Ending.committed backend).mem_entries h)
  | rollBack backend other => exact .inl ((Database.Ending.rolledBack backend).mem_entries h)

end RecordStore
