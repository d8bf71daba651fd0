import Mathlib.Data.Set.Basic
import RecordStore.Store.Journal

/-!
# Stores that agree on some keys

Two stores agree on some keys if they have the same records under them. Writing under a key and
undoing a journal keep the agreement, and outside of the keys that are written nothing changes.

* `Store.set` — put a record under a key or take it away;
* `Store.EqOn` — agreement on a set of keys, and `Store.EqOn.table_eq` — on the keys of a table it
  makes the tables equal;
* `Store.EqOn.undo`, `Store.eqOn_undo` — what undoing a journal does to it;
* `Store.undo_set`, `Store.undo_comm` — undoing goes along with writes and journals for other keys.
-/

namespace RecordStore

namespace Store

/-- Let a record be under a key, or none. -/
def set (store : Store) (key : Key) : Option Record → Store
  | some record => store.put key record
  | none => store.erase key

theorem get?_set (store : Store) (key other : Key) (content : Option Record) :
    (store.set key content).get? other = if key = other then content else store.get? other := by
  cases content with
  | none => exact get?_erase store key other
  | some record => exact get?_put store key other record

/-- Two stores have the same records under some keys. -/
def EqOn (keys : Set Key) (a b : Store) : Prop := ∀ key ∈ keys, a.get? key = b.get? key

namespace EqOn

variable {keys : Set Key} {a b c : Store}

theorem refl (keys : Set Key) (store : Store) : EqOn keys store store := fun _ _ => rfl

theorem symm (h : EqOn keys a b) : EqOn keys b a := fun key mem => (h key mem).symm

theorem trans (h : EqOn keys a b) (h' : EqOn keys b c) : EqOn keys a c :=
  fun key mem => (h key mem).trans (h' key mem)

theorem mono {keys' : Set Key} (subset : keys' ⊆ keys) (h : EqOn keys a b) : EqOn keys' a b :=
  fun key mem => h key (subset mem)

/-- The same content under the same key keeps the agreement. -/
theorem set (h : EqOn keys a b) (key : Key) (content : Option Record) :
    EqOn keys (a.set key content) (b.set key content) := by
  intro other mem
  rw [get?_set, get?_set, h other mem]

end EqOn

/-- Other keys are not touched. -/
theorem eqOn_set {keys : Set Key} {key : Key} (h : key ∉ keys) (store : Store)
    (content : Option Record) : EqOn keys (store.set key content) store := by
  intro other mem
  have apart : key ≠ other := fun same => h (same ▸ mem)
  rw [get?_set, if_neg apart]

/-- Tables are equal if the records under their keys are. -/
theorem EqOn.table_eq {place : Place} {a b : Store} (h : EqOn {key | key.place = place} a b) :
    a.table place = b.table place := by
  refine congrArg (List.map Prod.snd) (rows_eq_of_mem_iff (a.ascending.filter _)
    (b.ascending.filter _) fun row => ?_)
  obtain ⟨key, record⟩ := row
  simp only [List.mem_filter, decide_eq_true_eq, ← get?_eq_some_iff]
  constructor
  · rintro ⟨found, here⟩
    exact ⟨h key here ▸ found, here⟩
  · rintro ⟨found, here⟩
    exact ⟨(h key here).symm ▸ found, here⟩

end Store

theorem UndoEntry.restore_eq_set (entry : UndoEntry) (store : Store) :
    entry.restore store = store.set entry.key entry.previous := by
  obtain ⟨key, previous⟩ := entry
  cases previous <;> rfl

namespace Store

variable {keys : Set Key}

/-- Undoing the same journal keeps the agreement. -/
theorem EqOn.undo {a b : Store} (h : EqOn keys a b) (journal : Journal) :
    EqOn keys (journal.undo a) (journal.undo b) := by
  induction journal generalizing a b with
  | nil => exact h
  | cons entry older ih =>
    refine ih ?_
    rw [entry.restore_eq_set, entry.restore_eq_set]
    exact h.set _ _

/-- Undoing a journal touches no other keys than those of its entries. -/
theorem eqOn_undo {journal : Journal} (h : ∀ entry ∈ journal, entry.key ∉ keys) (store : Store) :
    EqOn keys (journal.undo store) store := by
  induction journal generalizing store with
  | nil => exact .refl keys store
  | cons entry older ih =>
    rw [List.forall_mem_cons] at h
    refine (ih h.2 _).trans ?_
    rw [entry.restore_eq_set]
    exact eqOn_set h.1 store _

theorem set_comm {key other : Key} (apart : key ≠ other) (store : Store)
    (content content' : Option Record) :
    (store.set key content).set other content' = (store.set other content').set key content := by
  apply ext
  intro k
  simp only [get?_set]
  by_cases here : key = k
  · subst here
    simp [apart.symm]
  · simp [here]

/-- A key for which a journal has no entry can be written before the journal is undone or then. -/
theorem undo_set {journal : Journal} {key : Key} (apart : ∀ entry ∈ journal, entry.key ≠ key)
    (store : Store) (content : Option Record) :
    journal.undo (store.set key content) = (journal.undo store).set key content := by
  induction journal generalizing store with
  | nil => rfl
  | cons entry older ih =>
    rw [List.forall_mem_cons] at apart
    show Journal.undo older (entry.restore (store.set key content)) =
      (Journal.undo older (entry.restore store)).set key content
    rw [entry.restore_eq_set, entry.restore_eq_set, set_comm apart.1.symm, ih apart.2]

/-- Journals for different keys can be undone in any order. -/
theorem undo_comm {journal other : Journal}
    (apart : ∀ entry ∈ journal, ∀ entry' ∈ other, entry.key ≠ entry'.key) (store : Store) :
    journal.undo (other.undo store) = other.undo (journal.undo store) := by
  induction other generalizing store with
  | nil => rfl
  | cons entry' older ih =>
    have first : ∀ entry ∈ journal, entry.key ≠ entry'.key :=
      fun entry mem => apart entry mem entry' List.mem_cons_self
    have rest : ∀ entry ∈ journal, ∀ later ∈ older, entry.key ≠ later.key :=
      fun entry mem later here => apart entry mem later (List.mem_cons_of_mem _ here)
    show journal.undo (Journal.undo older (entry'.restore store)) =
      Journal.undo older (entry'.restore (journal.undo store))
    rw [ih rest, entry'.restore_eq_set, entry'.restore_eq_set, undo_set first]

end Store

/-- The keys of the tables of a tenant. -/
def Tenant.keys (tenant : Tenant) : Set Key := {key | key.place.tenant = tenant}

/-- Different tenants have no table in common. -/
theorem Tenant.keys_subset_compl {tenant other : Tenant} (h : tenant ≠ other) :
    tenant.keys ⊆ other.keysᶜ :=
  fun _ here there => h (here.symm.trans there)

end RecordStore
