import RecordStore.Proofs.Store.Write
import RecordStore.Proofs.Transaction.Unit
import RecordStore.Repository

/-!
# Writes through a typed repository

A repository turns an entity or a patch into its record before the write, and the record that has
been stored into an entity after it. If the first fails nothing has been written, and so it is if
the write fails. If the second fails the record is in the store: the caller gets an error for a
write that has taken place.

* `Repository.Write` — the writes, with `Repository.Write.perform`;
* `Repository.Write.made` — the change that a write makes to the records, or why it makes none;
* `Repository.Write.run_perform` — what a write answers, and what it leaves;
* `Repository.Write.store_eq_or_put_of_failed` — what is left if it fails.
-/

namespace RecordStore

/-! ### Writes of records -/

namespace Store

/-- A write of a record puts its answer under the key of its entry, on a table. -/
def Puts (place : Place) (change : Store → Except StoreError (Change Record)) : Prop :=
  ∀ store c, change store = .ok c →
    c.undo.key.place = place ∧ c.store = store.put c.undo.key c.answer

theorem puts_change {alteration : Alteration Record}
    (answers : ∀ before answer after,
      alteration.make before = .ok (answer, after) → after = some answer) :
    Puts alteration.key.place alteration.change := by
  intro store c h
  obtain ⟨key, stored⟩ := Alteration.puts answers h
  rw [key]
  exact ⟨rfl, stored⟩

end Store

namespace Database

/-- The change that a write makes in a context, or why it makes none. -/
def made (database : Database) (context : Context)
    (change : Store → Except StoreError (Change Record)) : Except StoreError (Change Record) :=
  match database.checkWritable context with
  | .error e => .error e
  | .ok () => change database.store

theorem eq_ok_of_made {database : Database} {context : Context}
    {change : Store → Except StoreError (Change Record)} {c : Change Record}
    (h : database.made context change = .ok c) : change database.store = .ok c := by
  unfold made at h
  split at h
  · cases h
  · exact h

theorem write_eq_made (database : Database) (context : Context)
    (change : Store → Except StoreError (Change Record)) :
    (database.write context change).1 = (database.made context change).map Change.answer ∧
      (database.write context change).2.store =
        ((database.made context change).map Change.store).toOption.getD database.store := by
  cases allowed : database.checkWritable context with
  | error e =>
    rw [write_of_refused _ _ allowed, made, allowed]
    exact ⟨rfl, rfl⟩
  | ok _ =>
    rw [write_of_writable _ _ allowed, store_settle, made, allowed, Effect.writing]
    cases change database.store <;> exact ⟨rfl, rfl⟩

end Database

namespace Repository

/-- A write through a repository. -/
inductive Write (α : Type) where
  | create (entity : α)
  | update (id : String) (patch : Json)

namespace Write

variable {α : Type}

/-- Make the write, and keep the answer. -/
def perform (repository : Repository α) (context : Context) :
    Write α → Work (Option (Except StoreError α))
  | create entity =>
    repository.create context entity fun reply => .note (fun _ => some reply) fun _ => .done
  | update id patch =>
    repository.update context id patch fun reply => .note (fun _ => some reply) fun _ => .done

/-- The write of the record, if the entity or the patch is an object. -/
def recordWrite (repository : Repository α) (moment : Moment) (tenant : Tenant) :
    Write α → Except StoreError (Store → Except StoreError (Change Record))
  | create entity =>
    match repository.codec.toRecord entity with
    | .error e => .error e
    | .ok record => .ok fun store => store.create ⟨tenant, repository.table⟩ moment record
  | update id patch =>
    match Patch.ofJson patch with
    | .error e => .error e
    | .ok patch => .ok fun store => store.update ⟨tenant, repository.table⟩ moment id patch

theorem puts_recordWrite {repository : Repository α} {moment : Moment} {tenant : Tenant}
    {write : Write α} {change : Store → Except StoreError (Change Record)}
    (h : write.recordWrite repository moment tenant = .ok change) :
    Store.Puts ⟨tenant, repository.table⟩ change := by
  cases write with
  | create entity =>
    simp only [recordWrite] at h
    split at h
    · cases h
    · obtain rfl := Except.ok.inj h
      simp only [Store.create_eq]
      exact Store.puts_change Store.creation_answers
  | update id patch =>
    simp only [recordWrite] at h
    split at h
    · cases h
    · obtain rfl := Except.ok.inj h
      simp only [Store.update_eq]
      exact Store.puts_change Store.revision_answers

/-- The change that a write makes to the records, or why it makes none. -/
def made (repository : Repository α) (moment : Moment) (context : Context) (database : Database)
    (write : Write α) : Except StoreError (Change Record) :=
  match write.recordWrite repository moment context.tenant with
  | .error e => .error e
  | .ok change => database.made context change

/-- A write is the write of the record between the two conversions. -/
theorem run_perform_eq (write : Write α) (repository : Repository α) (manager : Manager)
    (surroundings : Surroundings) (context : Context) (own : Option (Except StoreError α))
    (database : Database) :
    (write.perform repository context).run manager surroundings own database =
      match write.recordWrite repository (surroundings.moment database.moments) context.tenant with
      | .error e => (.done, some (.error e), database)
      | .ok change =>
        let written := { database with moments := database.moments + 1 }.write context change
        (.done, some (Except.bind written.1 repository.codec.ofRecord), written.2) := by
  cases write with
  | create entity =>
    simp only [perform, Repository.create, recordWrite]
    cases repository.codec.toRecord entity <;> rfl
  | update id patch =>
    simp only [perform, Repository.update, recordWrite]
    cases Patch.ofJson patch <;> rfl

/-- The answer is the entity of the record that has been put under its key, and nothing else has
been done to the records. -/
theorem run_perform (write : Write α) (repository : Repository α) (manager : Manager)
    (surroundings : Surroundings) (context : Context) (own : Option (Except StoreError α))
    (database : Database) :
    let ended := (write.perform repository context).run manager surroundings own database
    match write.made repository (surroundings.moment database.moments) context database with
    | .error e => ended.2.1 = some (.error e) ∧ ended.2.2.store = database.store
    | .ok c => ended.2.1 = some (repository.codec.ofRecord c.answer) ∧
        c.undo.key.place = ⟨context.tenant, repository.table⟩ ∧
        ended.2.2.store = database.store.put c.undo.key c.answer := by
  intro ended
  have course : ended = _ := write.run_perform_eq repository manager surroundings context own database
  rw [course, made]
  cases converted : write.recordWrite repository (surroundings.moment database.moments)
      context.tenant with
  | error e => exact ⟨rfl, rfl⟩
  | ok change =>
    obtain ⟨reply, store⟩ :=
      { database with moments := database.moments + 1 }.write_eq_made context change
    have same : { database with moments := database.moments + 1 }.made context change =
        database.made context change := rfl
    rw [same] at reply store
    dsimp only
    rw [reply, store]
    cases outcome : database.made context change with
    | error e => exact ⟨rfl, rfl⟩
    | ok c =>
      obtain ⟨here, put⟩ := puts_recordWrite converted _ c (Database.eq_ok_of_made outcome)
      exact ⟨rfl, here, put⟩

/-- A write that fails has changed no record, except if it fails because the record that it has
stored is not readable as an entity. Then this record is in the store, and all others are as
before. -/
theorem store_eq_or_put_of_failed (write : Write α) (repository : Repository α) (manager : Manager)
    (surroundings : Surroundings) (context : Context) (own : Option (Except StoreError α))
    (database : Database) {e : StoreError}
    (failed : ((write.perform repository context).run manager surroundings own database).2.1 =
      some (.error e)) :
    let ended := (write.perform repository context).run manager surroundings own database
    match write.made repository (surroundings.moment database.moments) context database with
    | .error fault => e = fault ∧
        ∀ key, ended.2.2.store.get? key = database.store.get? key
    | .ok c => repository.codec.ofRecord c.answer = .error e ∧
        c.undo.key.place = ⟨context.tenant, repository.table⟩ ∧
        ended.2.2.store.get? c.undo.key = some c.answer ∧
        ∀ key ≠ c.undo.key, ended.2.2.store.get? key = database.store.get? key := by
  intro ended
  have course := write.run_perform repository manager surroundings context own database
  cases outcome : write.made repository (surroundings.moment database.moments) context database with
  | error fault =>
    rw [outcome] at course
    obtain ⟨reply, store⟩ := course
    cases failed.symm.trans reply
    exact ⟨rfl, fun key => congrArg (·.get? key) store⟩
  | ok c =>
    rw [outcome] at course
    obtain ⟨reply, here, store⟩ := course
    have unread : repository.codec.ofRecord c.answer = .error e :=
      Option.some.inj (reply.symm.trans failed)
    refine ⟨unread, here, ?_, fun key apart => ?_⟩
    · show ended.2.2.store.get? c.undo.key = _
      rw [store, Store.get?_put, if_pos rfl]
    · show ended.2.2.store.get? key = _
      rw [store, Store.get?_put, if_neg apart.symm]

end Write

/-- A course at a school. -/
structure Course where
  id : String
  credits : Int

/-- Courses as JSON objects, whose credits must be an integer. -/
def Course.codec : Codec Course where
  write course := .ok <| .object [("id", .text course.id), ("credits", .ofInt course.credits)]
  read value :=
    match value.get? "id", value.get? "credits" with
    | some (.text id), some (.number (.integer credits _)) => .ok ⟨id, credits⟩
    | _, _ => .error "not a course"

/-- Access to courses. -/
def courses : Repository Course := ⟨Course.codec, "courses"⟩

namespace Write

/-- A course is given credits that are no number. -/
def miscounting (id : String) : Write Course := .update id (.object [("credits", .text "many")])

/-- A database with one course. -/
def enrolled : Database :=
  (((create ⟨"c-1", 3⟩ : Write Course).perform courses (.new ⟨"acme"⟩)).run .direct .counting none
    .empty).2.2

/-- Where there is no such course nothing is changed. Where there is one it is in the store with the
new credits, and no other. -/
theorem miscounting_changes_one_record :
    let ended (id : String) := ((miscounting id).perform courses (.new ⟨"acme"⟩)).run .direct
      .counting none enrolled
    let key : Key := ⟨⟨⟨"acme"⟩, "courses"⟩, "c-1"⟩
    ((ended "c-2").2.1 = some (.error (.notFound "courses" "c-2")) ∧
        ∀ key, (ended "c-2").2.2.store.get? key = enrolled.store.get? key) ∧
      (ended "c-1").2.1 = some (.error (.serialization "not a course")) ∧
      ∀ other ≠ key, (ended "c-1").2.2.store.get? other = enrolled.store.get? other := by
  intro ended key
  have missing : (ended "c-2").2.1 = some (.error (.notFound "courses" "c-2")) := rfl
  have unread : (ended "c-1").2.1 = some (.error (.serialization "not a course")) := rfl
  have unchanged := store_eq_or_put_of_failed _ _ _ _ _ _ _ missing
  have stored := store_eq_or_put_of_failed _ _ _ _ _ _ _ unread
  exact ⟨⟨missing, unchanged.2⟩, unread, stored.2.2.2⟩

/-- A course is stored with three credits. An update fails, and the credits are gone. -/
theorem failed_update_is_stored :
    let ended := ((miscounting "c-1").perform courses (.new ⟨"acme"⟩)).run .direct .counting none
      enrolled
    let credits (database : Database) :=
      (database.store.get? ⟨⟨⟨"acme"⟩, "courses"⟩, "c-1"⟩).bind (·.get? "credits")
    ended.2.1 = some (.error (.serialization "not a course")) ∧
      credits enrolled = some (.integer 3) ∧ credits ended.2.2 = some (.text "many") := by
  refine ⟨rfl, rfl, rfl⟩

end Write

end Repository

end RecordStore
