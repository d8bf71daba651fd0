import RecordStore.Store.Basic

/-!
# Undo journals

A journal has one entry for every write, the newest first: the key that was written and the record
that was under it before. Undoing a journal restores the entries from the newest to the oldest.
-/

namespace RecordStore

/-- What was under a key before a write. -/
structure UndoEntry where
  key : Key
  previous : Option Record

/-- The entries of the writes of a transaction, the newest first. -/
abbrev Journal := List UndoEntry

/-- Bring back what was under the key. -/
def UndoEntry.restore (entry : UndoEntry) (store : Store) : Store :=
  match entry.previous with
  | some record => store.put entry.key record
  | none => store.erase entry.key

/-- Bring back everything, the newest write first. -/
def Journal.undo : Journal → Store → Store
  | [], store => store
  | entry :: older, store => Journal.undo older (entry.restore store)

end RecordStore
