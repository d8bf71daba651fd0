import RecordStore.Proofs.Store.Agreement
import RecordStore.Store.Write

/-!
# Writes

Every write looks at the record under one key, and either fails or says what shall be there
afterwards. Its entry has the record that was there before, and so takes it back.

* `Alteration` — a key, and what is made of the record under it, with `Alteration.change`;
* `Store.creation`, `Store.revision`, `Store.removal` — the alterations that the three writes are;
* `Alteration.restore_undo` — the entry of a write takes it back;
* `Alteration.puts` — a write that answers what it stores.
-/

namespace RecordStore

/-- A write on the record under a key: it fails, or it has an answer and leaves another content. -/
structure Alteration (α : Type) where
  key : Key
  make : Option Record → Except StoreError (α × Option Record)

namespace Alteration

variable {α : Type} {alteration : Alteration α} {store : Store}

/-- The change of a store; its entry has the record that was there before. -/
def change (alteration : Alteration α) (store : Store) : Except StoreError (Change α) :=
  let before := store.get? alteration.key
  match alteration.make before with
  | .error e => .error e
  | .ok (answer, after) => .ok ⟨answer, store.set alteration.key after, ⟨alteration.key, before⟩⟩

theorem change_eq_ok_iff {c : Change α} :
    alteration.change store = .ok c ↔
      ∃ answer after, alteration.make (store.get? alteration.key) = .ok (answer, after) ∧
        c = ⟨answer, store.set alteration.key after,
          ⟨alteration.key, store.get? alteration.key⟩⟩ := by
  simp only [change]
  cases alteration.make (store.get? alteration.key) with
  | error e => simp
  | ok made =>
    constructor
    · rintro ⟨⟩
      exact ⟨_, _, rfl, rfl⟩
    · rintro ⟨answer, after, ⟨⟩, rfl⟩
      rfl

/-- The entry of a write takes it back. -/
theorem restore_undo {c : Change α} (h : alteration.change store = .ok c) :
    c.undo.restore c.store = store := by
  obtain ⟨answer, after, -, rfl⟩ := change_eq_ok_iff.1 h
  apply Store.ext
  intro key
  rw [UndoEntry.restore_eq_set, Store.get?_set, Store.get?_set]
  by_cases here : alteration.key = key
  · rw [if_pos here, here]
  · rw [if_neg here, if_neg here]

/-- A write that answers the record that it stores puts its answer under its key. -/
theorem puts {alteration : Alteration Record}
    (answers : ∀ before answer after,
      alteration.make before = .ok (answer, after) → after = some answer)
    {c : Change Record} (h : alteration.change store = .ok c) :
    c.undo.key = alteration.key ∧ c.store = store.put alteration.key c.answer := by
  obtain ⟨answer, after, made, rfl⟩ := change_eq_ok_iff.1 h
  obtain rfl := answers _ answer after made
  exact ⟨rfl, rfl⟩

end Alteration

namespace Store

/-- The alteration that creates a record. -/
def creation (place : Place) (moment : Moment) (record : Record) : Alteration Record :=
  let stored := record.prepared moment
  { key := ⟨place, stored.id⟩
    make := fun
      | some _ => .error (.alreadyExists place.table stored.id)
      | none => .ok (stored, some stored) }

/-- The alteration that updates the record of an identifier. -/
def revision (place : Place) (moment : Moment) (id : String) (patch : Patch) :
    Alteration Record where
  key := ⟨place, id⟩
  make
    | none => .error (.notFound place.table id)
    | some old =>
      let stored := (old.merge patch).touch moment.now
      .ok (stored, some stored)

/-- The alteration that removes the record of an identifier. -/
def removal (place : Place) (id : String) : Alteration Unit where
  key := ⟨place, id⟩
  make
    | none => .error (.notFound place.table id)
    | some _ => .ok ((), none)

variable (store : Store) (place : Place) (moment : Moment)

theorem create_eq (record : Record) :
    store.create place moment record = (creation place moment record).change store := by
  cases found : store.get? ⟨place, (record.prepared moment).id⟩ <;>
    simp [create, contains, found, Alteration.change, creation, set]

theorem update_eq (id : String) (patch : Patch) :
    store.update place moment id patch = (revision place moment id patch).change store := by
  cases found : store.get? ⟨place, id⟩ <;>
    simp [update, found, Alteration.change, revision, set]

theorem delete_eq (id : String) : store.delete place id = (removal place id).change store := by
  cases found : store.get? ⟨place, id⟩ <;>
    simp [delete, found, Alteration.change, removal, set]

theorem creation_answers {place : Place} {moment : Moment} {record : Record}
    (before : Option Record) (answer : Record) (after : Option Record)
    (made : (creation place moment record).make before = .ok (answer, after)) :
    after = some answer := by
  cases before with
  | some old => exact nomatch made
  | none =>
    cases made
    rfl

theorem revision_answers {place : Place} {moment : Moment} {id : String} {patch : Patch}
    (before : Option Record) (answer : Record) (after : Option Record)
    (made : (revision place moment id patch).make before = .ok (answer, after)) :
    after = some answer := by
  cases before with
  | none => exact nomatch made
  | some old =>
    cases made
    rfl

end Store

end RecordStore
