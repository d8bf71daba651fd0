import RecordStore.Configuration
import RecordStore.Error

/-!
# Faults of a database connection

What can go wrong below a statement. A fault of the connection makes the backend unavailable; any
other fault is one of the operation on the table.
-/

namespace RecordStore

/-- The faults that a database connection reports. -/
inductive ConnectionFault where
  | io
  | tls
  | poolTimedOut
  | poolClosed
  | workerCrashed
  | rowNotFound
  | columnNotFound
  | protocol
  | configuration
  deriving DecidableEq

namespace ConnectionFault

/-- The names of the faults. -/
def names : List (String × ConnectionFault) := [
  ("io", .io), ("tls", .tls), ("pool_timed_out", .poolTimedOut), ("pool_closed", .poolClosed),
  ("worker_crashed", .workerCrashed), ("row_not_found", .rowNotFound),
  ("column_not_found", .columnNotFound), ("protocol", .protocol),
  ("configuration", .configuration)]

/-- Whether the backend cannot be reached. -/
def isUnavailability : ConnectionFault → Bool
  | .io | .tls | .poolTimedOut | .poolClosed | .workerCrashed => true
  | .rowNotFound | .columnNotFound | .protocol | .configuration => false

/-- The error of a fault during an operation on a table; `cause` is the fault in words. -/
def toError (fault : ConnectionFault) (operation table cause : String) : StoreError :=
  let backend := DatabaseKind.postgres.name
  if fault.isUnavailability then .unavailable backend cause
  else .backend backend operation table cause

end ConnectionFault

end RecordStore
