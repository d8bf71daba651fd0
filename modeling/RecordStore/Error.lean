import RecordStore.Binary64.Text
import RecordStore.Json.Printer

/-!
# Errors

Every failure of the library has a cause, told apart by the constructors of `StoreError`; failures
of units of work are the causes of `TransactionError`. The wording is in `message`, the stable code
in `code`.

* `StoreError.rootCause` — the error beneath any number of rolled-back units of work;
* `FilterFault`, `QueryFault` — what can be wrong with list parameters.
-/

namespace RecordStore

mutual

/-- The causes of failure of a store operation. -/
inductive StoreError where
  | notFound (table id : String)
  | alreadyExists (table id : String)
  | invalidFilter (field message : String)
  | invalidQuery (message : String)
  | providerNotRegistered (provider entity : String)
  | alreadyRegistered (provider entity : String)
  | transaction (cause : TransactionError)
  | unavailable (backend message : String)
  | backend (backend operation table message : String)
  | serialization (message : String)
  | unsupported (backend operation : String)
  | internal (message : String)

/-- The causes of failure of a unit of work. -/
inductive TransactionError where
  | rolledBack (id : String) (cause : StoreError)
  | rollbackOnly (id : String)
  | aborted (id message : String)
  | commitFailed (id message : String)
  | beginFailed (message : String)
  | invalidHandle (message : String)

end

instance : Inhabited StoreError := ⟨.internal ""⟩

instance : Inhabited TransactionError := ⟨.beginFailed ""⟩

/-- The stable code of a failed unit of work. -/
def TransactionError.code : TransactionError → String
  | .rolledBack .. => "TRANSACTION_ROLLED_BACK"
  | .rollbackOnly .. => "TRANSACTION_ROLLED_BACK"
  | .aborted .. => "TRANSACTION_ABORTED"
  | .commitFailed .. => "TRANSACTION_COMMIT_FAILED"
  | .beginFailed .. => "TRANSACTION_BEGIN_FAILED"
  | .invalidHandle .. => "TRANSACTION_INVALID_HANDLE"

/-- The stable code of an error. -/
def StoreError.code : StoreError → String
  | .notFound .. => "NOT_FOUND"
  | .alreadyExists .. => "ALREADY_EXISTS"
  | .invalidFilter .. => "INVALID_FILTER"
  | .invalidQuery .. => "INVALID_QUERY"
  | .providerNotRegistered .. => "PROVIDER_NOT_REGISTERED"
  | .alreadyRegistered .. => "PROVIDER_ALREADY_REGISTERED"
  | .transaction cause => cause.code
  | .unavailable .. => "BACKEND_UNAVAILABLE"
  | .backend .. => "BACKEND_ERROR"
  | .serialization .. => "SERIALIZATION_ERROR"
  | .unsupported .. => "UNSUPPORTED_OPERATION"
  | .internal .. => "INTERNAL_ERROR"

mutual

/-- The wording of an error. -/
def StoreError.message : StoreError → String
  | .notFound table id => s!"{table} with id '{id}' not found"
  | .alreadyExists table id => s!"{table} with id '{id}' already exists"
  | .invalidFilter field message => s!"Invalid filter on field '{field}': {message}"
  | .invalidQuery message => s!"Invalid list query: {message}"
  | .providerNotRegistered provider entity =>
    s!"provider not registered: '{provider}' for entity '{entity}'"
  | .alreadyRegistered provider entity =>
    s!"provider '{provider}' already registered for entity '{entity}'"
  | .transaction cause => cause.message
  | .unavailable backend message => s!"Storage backend '{backend}' is unavailable: {message}"
  | .backend backend operation table message =>
    s!"{backend} {operation} failed on '{table}': {message}"
  | .serialization message => s!"Serialization error: {message}"
  | .unsupported backend operation => s!"{backend} does not support {operation}"
  | .internal message => s!"Internal error: {message}"

/-- The wording of a failed unit of work. -/
def TransactionError.message : TransactionError → String
  | .rolledBack id cause =>
    let reason := cause.message
    s!"Transaction {id} rolled back: {reason}"
  | .rollbackOnly id => s!"Transaction {id} rolled back: a nested operation failed"
  | .aborted id message => s!"Transaction {id} aborted: {message}"
  | .commitFailed id message => s!"Transaction {id} failed to commit: {message}"
  | .beginFailed message => s!"Failed to begin transaction: {message}"
  | .invalidHandle message => s!"Invalid transaction handle: {message}"

end

/-- The error at the bottom of a chain of rolled-back units of work. -/
def StoreError.rootCause : StoreError → StoreError
  | .transaction (.rolledBack _ cause) => cause.rootCause
  | error => error

/-- Whether the root cause is a missing record. -/
def StoreError.isNotFound (error : StoreError) : Bool :=
  match error.rootCause with
  | .notFound .. => true
  | _ => false

/-- What can be wrong with a filter. -/
inductive FilterFault where
  | emptyField
  | reversedBounds (low high : Binary64)
  | notFinite
  | notJson
  | notObject
  | unrecognizedKey
  | notComparable (operand : Json)
  | notNumber (operand : Json)
  | notText (operand : Json)
  | notRange

/-- The wording of a filter fault. -/
def FilterFault.message : FilterFault → String
  | .emptyField => "field name is empty"
  | .reversedBounds low high =>
    let lowText := low.plainText
    let highText := high.plainText
    s!"between bounds are reversed ({lowText} > {highText})"
  | .notFinite => "numeric operand must be finite"
  | .notJson => "not valid JSON"
  | .notObject => "expected a JSON object"
  | .unrecognizedKey => "unrecognized filter key"
  | .notComparable operand => "cannot compare against " ++ operand.print
  | .notNumber operand => "expected a number, got " ++ operand.print
  | .notText operand => "expected a string, got " ++ operand.print
  | .notRange => "range expects [low, high]"

/-- The error of a filter fault on a field. -/
def FilterFault.on (fault : FilterFault) (field : String) : StoreError :=
  .invalidFilter field fault.message

/-- What can be wrong with the other parameters of a list, and with a statement. -/
inductive QueryFault where
  | negativeLimit (limit : Int)
  | pageBelowOne (page : Int)
  | searchWithoutFields
  | emptySortField
  | unknownDirection (direction field : String)
  | statementNotObject

/-- The wording of a query fault. -/
def QueryFault.message : QueryFault → String
  | .negativeLimit limit => s!"limit must be >= 0, got {limit}"
  | .pageBelowOne page => s!"page must be >= 1, got {page}"
  | .searchWithoutFields => "search query given without any field to search"
  | .emptySortField => "sort field name is empty"
  | .unknownDirection direction field =>
    s!"unknown sort direction '{direction}' for field '{field}'"
  | .statementNotObject => "in-memory query must be a JSON object"

/-- The error of a query fault. -/
def QueryFault.error (fault : QueryFault) : StoreError := .invalidQuery fault.message

end RecordStore
