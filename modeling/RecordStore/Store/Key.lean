import RecordStore.Record
import RecordStore.Text.Order

/-!
# Keys of stored records

A record is stored under its tenant, its table and its identifier. Keys are ordered by these three
in turn, each by its code points.

* `Place`, `Key` — a table of a tenant, and an identifier in it;
* `Key.compare` — the order, a total one that tells any two keys apart.
-/

namespace RecordStore

/-- A table of a tenant. -/
structure Place where
  tenant : Tenant
  table : String
  deriving DecidableEq

/-- The key of a stored record. -/
structure Key where
  place : Place
  id : String
  deriving DecidableEq

namespace Key

/-- The order of keys: by tenant, by table and by identifier. -/
def compare (a b : Key) : Ordering :=
  (Text.compare a.place.tenant.name b.place.tenant.name).then
    ((Text.compare a.place.table b.place.table).then (Text.compare a.id b.id))

theorem compare_eq_iff {a b : Key} : a.compare b = .eq ↔ a = b := by
  obtain ⟨⟨⟨s⟩, t⟩, i⟩ := a
  obtain ⟨⟨⟨s'⟩, t'⟩, i'⟩ := b
  simp only [compare, Ordering.then_eq_eq, Text.compare_eq_iff, mk.injEq, Place.mk.injEq,
    Tenant.mk.injEq, and_assoc]

instance : Std.LawfulEqCmp compare where
  compare_self := compare_eq_iff.2 rfl
  eq_of_compare := compare_eq_iff.1

instance : Std.TransCmp compare :=
  have := transCmp_comap Text.compare fun key : Key => key.place.tenant.name
  have := transCmp_comap Text.compare fun key : Key => key.place.table
  have := transCmp_comap Text.compare Key.id
  inferInstanceAs (Std.TransCmp (compareLex
    (fun a b : Key => Text.compare a.place.tenant.name b.place.tenant.name)
    (compareLex (fun a b : Key => Text.compare a.place.table b.place.table)
      fun a b : Key => Text.compare a.id b.id)))

end Key

end RecordStore
