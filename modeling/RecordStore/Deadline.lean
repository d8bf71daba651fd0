import RecordStore.Duration
import RecordStore.Error

/-!
# Deadlines

A call to a backend may be given a limit of time. A call that has its result at once keeps it
whatever the limit is; one that lets other work go first keeps it unless the limit is zero; and one
that never comes back fails when the limit has passed.
-/

namespace RecordStore

/-- A call, by when its result is there. -/
inductive PendingCall (α : Type) where
  | atOnce (result : Except StoreError α)
  | afterOthers (result : Except StoreError α)
  | never

namespace PendingCall

/-- The error of a call to a backend that took longer than its limit. -/
def exceeded (backend : String) (limit : Duration) : StoreError :=
  let limitText := limit.text
  .unavailable backend s!"deadline of {limitText} exceeded"

/-- The result of a call under a limit, if there is one; without a limit and without a result the
caller waits for ever. -/
def within {α : Type} (call : PendingCall α) (backend : String) (limit : Option Duration) :
    Option (Except StoreError α) :=
  match call, limit with
  | .atOnce result, _ => some result
  | .afterOthers result, none => some result
  | .afterOthers result, some limit =>
    if limit.nanos = 0 then some (.error (exceeded backend limit)) else some result
  | .never, none => none
  | .never, some limit => some (.error (exceeded backend limit))

end PendingCall

end RecordStore
