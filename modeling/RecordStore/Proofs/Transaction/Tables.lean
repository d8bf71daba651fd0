import RecordStore.Proofs.List.Candidates
import RecordStore.Proofs.List.Native
import RecordStore.Proofs.Transaction.Invariant

/-!
# Tables in any order

A table prescribes no order in which its records are handed over. Every record is stored under its
identifier, so that no two records of a table have the same one, and neither a query nor a list
depends on that order: a query sorts by the identifiers, and a list by its keys and the identifiers,
which has one outcome only if the values under each key are in order.

* `Key.Identifies`, `Schedule.has_identified` — every record is stored under its identifier;
* `Store.mergeSort_snapshot` — the table is what sorting by the identifiers makes of a snapshot;
* `Store.query_rearranged`, `Store.list_eq_of_ordered` — the answers to queries and lists;
* `Operation.effect_rearranged` — the effect of a call, in whatever order the records come.
-/

namespace RecordStore

/-! ### Identifiers -/

/-- The record is stored under its identifier. -/
def Key.Identifies (key : Key) (record : Record) : Prop := record.id = key.id

theorem Operation.preserves_identified (moment : Moment) (tenant : Tenant) (operation : Operation) :
    operation.Preserves Key.Identifies moment tenant := by
  intro alteration alters before has answer after made
  cases operation with
  | create table record =>
    obtain rfl := Option.some.inj alters
    cases before with
    | some old => exact nomatch made
    | none =>
      cases made
      intro stored same
      cases same
      rfl
  | update table id patch =>
    obtain rfl := Option.some.inj alters
    cases before with
    | none => exact nomatch made
    | some old =>
      cases made
      -- neither a partial update nor the stamps change the identifier
      have kept : old.id = id := has old rfl
      intro stored same
      cases same
      exact kept
  | delete table id =>
    obtain rfl := Option.some.inj alters
    cases before with
    | none => exact nomatch made
    | some old =>
      cases made
      exact fun _ => nofun
  | read | list | query | snapshot | count => exact nomatch alters

/-- Whatever steps are taken, every record is stored under its identifier. -/
theorem Schedule.has_identified (schedule : List Step) :
    (Schedule.run schedule .empty).store.Has Key.Identifies := by
  refine (Schedule.has_run (fun step _ => ?_) (Database.has_empty _)).store
  cases step with
  | call moment context operation => exact operation.preserves_identified moment context.tenant
  | openTransaction | adopt | mark | commit | rollBack => trivial

/-! ### Tables and snapshots -/

namespace Store

variable {store : Store}

/-- The records of a table are in ascending order of their identifiers. -/
theorem table_ascending (identified : store.Has Key.Identifies) (place : Place) :
    (store.table place).Pairwise fun a b => Text.compare a.id b.id = .lt := by
  have own : ∀ row ∈ store.rows.filter (fun row => decide (row.1.place = place)),
      row.2.id = row.1.id ∧ row.1.place = place := by
    intro row mem
    obtain ⟨known, here⟩ := List.mem_filter.1 mem
    exact ⟨identified row.1 row.2 (get?_eq_some_iff.2 known), of_decide_eq_true here⟩
  rw [table, List.pairwise_map]
  refine (store.ascending.filter _).imp_of_mem fun {a b} ha hb less => ?_
  obtain ⟨idA, placeA⟩ := own a ha
  obtain ⟨idB, placeB⟩ := own b hb
  rw [Key.compare, placeA, placeB, Text.compare_eq_iff.2 rfl, Text.compare_eq_iff.2 rfl] at less
  rw [idA, idB]
  exact less

theorem ids_nodup_of_ascending {records : List Record}
    (ascending : records.Pairwise fun a b => Text.compare a.id b.id = .lt) :
    (records.map Record.id).Nodup := by
  refine List.pairwise_map.2 (ascending.imp fun less same => ?_)
  rw [Text.compare_eq_iff.2 same] at less
  cases less

theorem ids_nodup (identified : store.Has Key.Identifies) (place : Place) :
    ((store.table place).map Record.id).Nodup :=
  ids_nodup_of_ascending (store.table_ascending identified place)

theorem snapshot_perm (store : Store) (place : Place) (arrangement : Arrangement) :
    (store.snapshot place arrangement).Perm (store.table place) :=
  arrangement.perm _

theorem ids_nodup_snapshot (identified : store.Has Key.Identifies) (place : Place)
    (arrangement : Arrangement) : ((store.snapshot place arrangement).map Record.id).Nodup :=
  ((store.snapshot_perm place arrangement).map Record.id).nodup_iff.2 (ids_nodup identified place)

/-- One record can only be handed over in one order. -/
theorem snapshot_eq_table {place : Place} (few : (store.table place).length ≤ 1)
    (arrangement : Arrangement) : store.snapshot place arrangement = store.table place := by
  have perm := store.snapshot_perm place arrangement
  generalize store.table place = records at few perm ⊢
  match records, few with
  | [], _ => exact perm.eq_nil
  | [record], _ => exact List.perm_singleton.1 perm

/-- Sorting by the identifiers makes the table of a snapshot, whatever order it comes in. -/
theorem mergeSort_snapshot (identified : store.Has Key.Identifies) (place : Place)
    (arrangement : Arrangement) :
    ((store.snapshot place arrangement).mergeSort fun a b => Text.le a.id b.id) =
      store.table place := by
  have perm := (List.mergeSort_perm _ fun a b : Record => Text.le a.id b.id).trans
    (store.snapshot_perm place arrangement)
  refine perm.eq_of_pairwise (fun a b _ _ less more => ?_)
    (pairwise_mergeSort_id (ids_nodup_snapshot identified place arrangement))
    (table_ascending identified place)
  exact absurd more (Std.OrientedCmp.not_lt_of_lt less)

/-! ### Queries and lists -/

/-- A query sorts whatever is handed over by the identifiers. -/
theorem query_rearranged (identified : store.Has Key.Identifies) (place : Place)
    (arrangement other : Arrangement) (statement : String) :
    store.query place arrangement statement = store.query place other statement := by
  simp only [query, mergeSort_snapshot identified place]

/-- A list is the one of the table, if the values under each key are in order. -/
theorem list_eq_of_ordered (identified : store.Has Key.Identifies) (place : Place)
    (arrangement : Arrangement) {params : ListParams}
    (ordered : ∀ key ∈ params.sort, SortSpec.Ordered {record | record ∈ store.table place} key) :
    store.list place arrangement params =
      params.validate.map fun _ => ListResult.execute? (store.table place) params := by
  have perm := store.snapshot_perm place arrangement
  rw [list, ListResult.execute?_of_candidates (ids_nodup identified place) ordered perm.subperm
    fun record mem _ => perm.mem_iff.2 mem]
  rfl

end Store

/-! ### Calls -/

namespace Operation

/-- The answer of a call has nothing to do with the order in which records are handed over: the
values that a list is sorted by are in order, and a snapshot has no two records. -/
def InOrder (tenant : Tenant) (store : Store) : Operation → Prop
  | list table params =>
    ∀ key ∈ params.sort, SortSpec.Ordered {record | record ∈ store.table ⟨tenant, table⟩} key
  | snapshot table => (store.table ⟨tenant, table⟩).length ≤ 1
  | _ => True

/-- A list without keys is in order in every store. -/
def ignoresOrder : Operation → Bool
  | list _ params => params.sort.isEmpty
  | snapshot _ => false
  | _ => true

theorem inOrder_of_ignoresOrder {operation : Operation} (ignores : operation.ignoresOrder = true)
    (tenant : Tenant) (store : Store) : operation.InOrder tenant store := by
  cases operation with
  | create | read | update | delete | query | count => trivial
  | list table params =>
    intro key mem
    rw [List.isEmpty_iff.1 ignores] at mem
    exact absurd mem List.not_mem_nil
  | snapshot table => exact nomatch ignores

/-- A call has the same effect in whatever order the records of a table come. -/
theorem effect_rearranged {store : Store} (identified : store.Has Key.Identifies)
    {tenant : Tenant} {operation : Operation} (ordered : operation.InOrder tenant store)
    (moment : Moment) (arrangement : Arrangement) :
    operation.effect { moment with arrangement } tenant store =
      operation.effect moment tenant store := by
  cases operation with
  | create | read | update | delete | count => rfl
  | list table params =>
    show Effect.reading store (store.list ⟨tenant, table⟩ arrangement params) =
      .reading store (store.list ⟨tenant, table⟩ moment.arrangement params)
    rw [store.list_eq_of_ordered identified _ arrangement ordered,
      store.list_eq_of_ordered identified _ moment.arrangement ordered]
  | query table statement =>
    show Effect.reading store (store.query ⟨tenant, table⟩ arrangement statement) =
      .reading store (store.query ⟨tenant, table⟩ moment.arrangement statement)
    rw [store.query_rearranged identified _ arrangement moment.arrangement]
  | snapshot table =>
    have alone (arrangement : Arrangement) :
        store.snapshot ⟨tenant, table⟩ arrangement = store.table ⟨tenant, table⟩ :=
      Store.snapshot_eq_table ordered arrangement
    show Effect.reading store (.ok (store.snapshot ⟨tenant, table⟩ arrangement)) =
      .reading store (.ok (store.snapshot ⟨tenant, table⟩ moment.arrangement))
    rw [alone, alone]


end Operation

end RecordStore
