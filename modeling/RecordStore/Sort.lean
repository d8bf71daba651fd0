import RecordStore.Error
import RecordStore.Record

/-!
# Sorting

A list is sorted by several keys: the first key on which two records differ decides, each key in
its own direction, and records equal on all keys are in ascending order of their identifiers.

* `SortSpec.parse` — keys written as `field:asc,other:desc`;
* `SortSpec.compareRecords` — the comparison of two records;
* `SortSpec.sort` — insertion sort by it, which keeps equal records in their order;
* `SortSpec.sort?` — sorting, which may be given up where the comparison is no order.
-/

namespace RecordStore

/-- The direction of a sort key. -/
inductive SortDirection where
  | ascending
  | descending
  deriving DecidableEq

/-- The comparison in a direction. -/
def SortDirection.apply : SortDirection → Ordering → Ordering
  | .ascending, o => o
  | .descending, o => o.swap

/-- One key of a sort. -/
structure SortKey where
  field : String
  direction : SortDirection
  deriving DecidableEq

/-- The keys of a sort, the most significant one first. -/
abbrev SortSpec := List SortKey

/-- The name of the key that sorts by the score of the search. -/
def relevanceKey : String := "_relevance"

/-- Whether a key sorts by the score of the search. -/
def SortKey.isRelevance (key : SortKey) : Bool := key.field == relevanceKey

namespace SortSpec

/-- Whether some key sorts by the score of the search. -/
def usesRelevance (spec : SortSpec) : Bool := spec.any SortKey.isRelevance

/-- The direction of its name, in any case. -/
def direction? (name : String) : Option SortDirection :=
  if Text.asciiLowercase name = "asc" then some .ascending
  else if Text.asciiLowercase name = "desc" then some .descending
  else none

/-- The key of one entry: a field name, with a direction after the first colon. -/
def parseEntry (entry : String) : Except StoreError SortKey :=
  match Text.splitColon entry with
  | none =>
    if entry.isEmpty then .error QueryFault.emptySortField.error else .ok ⟨entry, .ascending⟩
  | some (field, name) =>
    let name := Text.trim name
    match direction? name with
    | none => .error (QueryFault.unknownDirection (Text.asciiLowercase name) field).error
    | some direction =>
      let field := Text.trim field
      if field.isEmpty then .error QueryFault.emptySortField.error else .ok ⟨field, direction⟩

/-- The keys of the entries, in their order. -/
def parseEntries : List String → Except StoreError SortSpec
  | [] => .ok []
  | entry :: rest => do
    let key ← parseEntry entry
    let keys ← parseEntries rest
    .ok (key :: keys)

/-- The keys of an expression: entries between commas, blank ones left out. -/
def parse (expression : String) : Except StoreError SortSpec :=
  parseEntries (((Text.splitCommas expression).map Text.trim).filter fun entry => !entry.isEmpty)

/-- The value of a record under a key; `scores` has the score of each identifier that has one. -/
def keyValue? (scores : List (String × Binary64)) (key : SortKey) (record : Record) :
    Option FieldValue :=
  if key.isRelevance then (Members.get? record.id scores).map .float
  else record.fieldValue? key.field

/-- Compare two records by the keys alone. -/
def compareKeys (scores : List (String × Binary64)) (a b : Record) : SortSpec → Ordering
  | [] => .eq
  | key :: rest =>
    (key.direction.apply
      (FieldValue.compareOptional (keyValue? scores key a) (keyValue? scores key b))).then
      (compareKeys scores a b rest)

/-- Compare two records by the keys and then by their identifiers. -/
def compareRecords (scores : List (String × Binary64)) (spec : SortSpec) (a b : Record) :
    Ordering :=
  (compareKeys scores a b spec).then (Text.compare a.id b.id)

/-- Put a record into a list in descending order, before the first one that is not larger. -/
def insert (cmp : Record → Record → Ordering) (record : Record) : List Record → List Record
  | [] => [record]
  | last :: rest =>
    if cmp record last = .lt then last :: insert cmp record rest else record :: last :: rest

/-- Insert the records one after the other into a list in descending order. -/
def insertAll (cmp : Record → Record → Ordering) (sorted : List Record) :
    List Record → List Record
  | [] => sorted
  | record :: rest => insertAll cmp (insert cmp record sorted) rest

/-- The records in ascending order. -/
def sort (scores : List (String × Binary64)) (spec : SortSpec) (records : List Record) :
    List Record :=
  (insertAll (compareRecords scores spec) [] records).reverse

/-- Whether a comparison orders some records: it has the opposite outcome the other way round, and
it is transitive. -/
def Orders (cmp : Record → Record → Ordering) (records : List Record) : Prop :=
  (∀ a ∈ records, ∀ b ∈ records, cmp a b = (cmp b a).swap) ∧
    ∀ a ∈ records, ∀ b ∈ records, ∀ c ∈ records,
      (cmp a b).isLE = true → (cmp b c).isLE = true → (cmp a c).isLE = true

instance (cmp : Record → Record → Ordering) (records : List Record) :
    Decidable (Orders cmp records) :=
  inferInstanceAs (Decidable (_ ∧ _))

/-- The number of records up to which sorting is insertion sort, whatever the comparison is. -/
def insertionLimit : Nat := 20

/-- Whether sorting has a result. A few records are inserted one after the other. More of them are
merged, and merging relies on an order: if the comparison is none, it may be noticed and end the
sort with a panic, and no arrangement is promised. -/
def Sortable (scores : List (String × Binary64)) (spec : SortSpec) (records : List Record) : Prop :=
  records.length ≤ insertionLimit ∨ Orders (compareRecords scores spec) records

instance (scores : List (String × Binary64)) (spec : SortSpec) (records : List Record) :
    Decidable (Sortable scores spec records) :=
  inferInstanceAs (Decidable (_ ∨ _))

/-- The message of a sort that has noticed that the comparison is no order. -/
def disorder : String :=
  "user-provided comparison function does not correctly implement a total order"

/-- The records in ascending order, if sorting them has a result. -/
def sort? (scores : List (String × Binary64)) (spec : SortSpec) (records : List Record) :
    Option (List Record) :=
  if Sortable scores spec records then some (sort scores spec records) else none

end SortSpec

end RecordStore
