import RecordStore.Bson.Reader
import RecordStore.Deadline
import RecordStore.Document.Selection
import RecordStore.Document.Update
import RecordStore.Host
import RecordStore.List.Native
import RecordStore.List.Wire
import RecordStore.Repository
import RecordStore.Sql.Fault
import RecordStore.Sql.Selection
import RecordStore.Proofs.Transaction.Atomicity
import RecordStore.Proofs.Transaction.Protocol
import RecordStore.Proofs.Binary64.Rounding
import RecordStore.Proofs.Field.Order
import RecordStore.Proofs.Members
import RecordStore.Proofs.Sort
import RecordStore.Proofs.List.Pipeline
import RecordStore.Proofs.List.Candidates
import RecordStore.Proofs.List.Pages
import RecordStore.Proofs.Document.Key
import RecordStore.Proofs.Store.Agreement
import RecordStore.Proofs.Transaction.Alteration
import RecordStore.Proofs.Transaction.Journals
import RecordStore.Proofs.Transaction.Soundness
import RecordStore.Proofs.Transaction.Interleaving
import RecordStore.Proofs.Transaction.Isolation
import RecordStore.Proofs.Transaction.Schedule
import RecordStore.Proofs.Transaction.Withdrawal
import RecordStore.Proofs.Transaction.Handle
import RecordStore.Proofs.Transaction.Refusal
import RecordStore.Proofs.Repository
import RecordStore.Proofs.Timestamp.Calendar
import RecordStore.Proofs.Timestamp.Text
import RecordStore.Proofs.List.Written
import RecordStore.Proofs.Payload
import RecordStore.Proofs.Sql.Predicate
import RecordStore.Proofs.Sql.Selection
import RecordStore.Proofs.Binary64.Nearest
import RecordStore.Proofs.Document.Fields
import RecordStore.Proofs.Document.Numbers
import RecordStore.Proofs.Text.Fold
import RecordStore.Proofs.Document.Texts
import RecordStore.Proofs.Record.Merge
import RecordStore.Proofs.Record.Json
import RecordStore.Proofs.Bson.Embedding
import RecordStore.Proofs.Document.Update
import RecordStore.Proofs.Text.Bytes
import RecordStore.Proofs.List.Native
import RecordStore.Proofs.Sql.Text
import RecordStore.Proofs.Text.Blank
import RecordStore.Proofs.Search
import RecordStore.Proofs.Host
import RecordStore.Proofs.List.Wire
import RecordStore.Proofs.Store.Query
import RecordStore.Proofs.Filter.Shorthand
import RecordStore.Proofs.Filter.Integers
import RecordStore.Proofs.Filter.Casing
import RecordStore.Proofs.List.Query
import RecordStore.Proofs.Sort.Writing
import RecordStore.Proofs.Page
import RecordStore.Proofs.Filter.Order
import RecordStore.Proofs.Record.Stored
import RecordStore.Proofs.Record.Order
import RecordStore.Proofs.Record.RoundTrip
import RecordStore.Proofs.Record.Patch
import RecordStore.Proofs.Registry.Calls
