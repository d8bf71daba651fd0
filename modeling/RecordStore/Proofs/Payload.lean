import Mathlib.Data.List.Perm.Basic
import Mathlib.Tactic.ByContra
import RecordStore.Document.Basic
import RecordStore.Proofs.Members
import RecordStore.Sql.Row

/-!
# Records in their stored form

A record is stored as its payload, the members without the identifier, and is read back under an
identifier that is kept beside them. No name is repeated in the payload, so that each field is read
from the one member of its name.

* `Members.get?_eq_some_iff` — a look-up among members with names of their own;
* `Members.vacate_perm` — taking a member out changes only the order of the others;
* `Record.get?_payload` — the payload has the fields of the record;
* `Record.get?_ofFields` — the value of each field that is read back.
-/

namespace RecordStore

namespace Members

variable {α β : Type} {name other : String} {value : α} {members others : List (String × α)}

/-- A look-up finds the one member of a name. -/
theorem get?_eq_some_iff (distinct : (names members).Nodup) :
    get? name members = some value ↔ (name, value) ∈ members := by
  induction members with
  | nil => simp [get?]
  | cons m rest ih =>
    obtain ⟨key, old⟩ := m
    rw [names_cons, List.nodup_cons] at distinct
    rw [get?, List.mem_cons, ← ih distinct.2, Prod.mk.injEq]
    by_cases h : key = name
    · have missing : get? name rest = none := get?_eq_none_of_notMem (h ▸ distinct.1)
      simp [h, missing, eq_comm]
    · simp [h, Ne.symm h]

theorem get?_filter_ne (name other : String) (members : List (String × α)) :
    get? name (members.filter fun m => m.1 != other) =
      if name = other then none else get? name members := by
  induction members with
  | nil => simp [get?]
  | cons m rest ih =>
    obtain ⟨key, value⟩ := m
    by_cases h : key = other
    · rw [List.filter_cons_of_neg (by simp [h]), ih, get?, h]
      by_cases h' : name = other
      · rw [if_pos h', if_pos h']
      · rw [if_neg h', if_neg h', if_neg (Ne.symm h')]
    · rw [List.filter_cons_of_pos (by simpa using h), get?, get?, ih]
      by_cases h' : key = name
      · rw [if_pos h', if_pos h', if_neg (h' ▸ h)]
      · rw [if_neg h', if_neg h']

theorem names_filter_nodup (distinct : (names members).Nodup) (keep : String × α → Bool) :
    (names (members.filter keep)).Nodup :=
  distinct.sublist (List.filter_sublist.map Prod.fst)

/-- Removing a member keeps the others as they are, although the last one changes its place. -/
theorem vacate_perm (distinct : (names members).Nodup) :
    (vacate name members).Perm (members.filter fun m => m.1 != name) := by
  induction members with
  | nil => exact .nil
  | cons m rest ih =>
    obtain ⟨key, value⟩ := m
    rw [names_cons, List.nodup_cons] at distinct
    rw [vacate]
    by_cases h : key = name
    · have kept : ((key, value) :: rest).filter (fun m => m.1 != name) = rest := by
        rw [List.filter_cons_of_neg (by simp [h]), List.filter_eq_self]
        intro m mem
        have named : m.1 ∈ names rest := List.mem_map_of_mem mem
        have : m.1 ≠ name := fun same => distinct.1 (h.trans same.symm ▸ named)
        simpa using this
      rw [if_pos h, kept]
      cases last : rest.getLast? with
      | none => rw [List.getLast?_eq_none_iff.1 last]
      | some final =>
        obtain ⟨before, rfl⟩ := List.getLast?_eq_some_iff.1 last
        rw [List.dropLast_concat]
        exact (List.perm_append_singleton final before).symm
    · rw [if_neg h, List.filter_cons_of_pos (by simpa using h)]
      exact (ih distinct.2).cons _

theorem names_vacate_nodup (distinct : (names members).Nodup) :
    (names (vacate name members)).Nodup :=
  ((vacate_perm distinct).map Prod.fst).nodup_iff.2 (names_filter_nodup distinct _)

/-- The order of the members does not matter to a look-up. -/
theorem get?_of_perm (perm : members.Perm others) (distinct : (names members).Nodup) :
    get? name members = get? name others := by
  have distinct' : (names others).Nodup := (perm.map Prod.fst).nodup_iff.1 distinct
  ext value
  rw [get?_eq_some_iff distinct, get?_eq_some_iff distinct', perm.mem_iff]

theorem get?_vacate (distinct : (names members).Nodup) (name other : String) :
    get? name (vacate other members) = if name = other then none else get? name members := by
  rw [get?_of_perm (vacate_perm distinct) (names_vacate_nodup distinct), get?_filter_ne]

theorem names_mapValues_nodup (distinct : (names members).Nodup) (f : α → β) :
    (names (mapValues f members)).Nodup := by
  rwa [names_mapValues]

end Members

/-! ### Writing -/

namespace Record

theorem names_members_nodup (record : Record) : (Members.names record.members).Nodup :=
  Members.nodup_putAll (by simp)

theorem names_payload_nodup (record : Record) : (Members.names record.payload).Nodup :=
  Members.names_vacate_nodup record.names_members_nodup

/-- The identifier stands where no field has its name. -/
theorem get?_members (record : Record) (name : String) :
    Members.get? name record.members =
      ((record.get? name).map FieldValue.toJson).or
        (if name = "id" then some (.text record.id) else none) := by
  have distinct := Members.names_mapValues_nodup record.fields.nodup FieldValue.toJson
  rw [members, Members.get?_putAll distinct, Members.get?_mapValues]
  by_cases h : name = "id"
  · simp [h, Members.get?, get?, Fields.get?]
  · simp [h, Ne.symm h, Members.get?, get?, Fields.get?]

/-- The payload has every field but one with the name of the identifier. -/
theorem get?_payload (record : Record) (name : String) :
    Members.get? name record.payload =
      if name = "id" then none else (record.get? name).map FieldValue.toJson := by
  rw [payload, Members.get?_vacate record.names_members_nodup, get?_members]
  by_cases h : name = "id" <;> simp [h]

/-! ### Reading -/

/-- The fields that are read back are those of the members, without one with the name of the
identifier. -/
theorem get?_ofFields (id : String) {members : List (String × Json)}
    (distinct : (Members.names members).Nodup) (name : String) :
    (ofFields id members).get? name =
      if name = "id" then none else (Members.get? name members).map FieldValue.ofJson := by
  have read : (Members.names (Members.mapValues FieldValue.ofJson
      (members.filter fun m => m.1 != "id"))).Nodup :=
    Members.names_mapValues_nodup (Members.names_filter_nodup distinct _) _
  have found : (ofFields id members).get? name = Members.get? name (Members.distinct
      (Members.mapValues FieldValue.ofJson (members.filter fun m => m.1 != "id"))) := rfl
  rw [found, Members.get?_distinct read, Members.get?_mapValues, Members.get?_filter_ne]
  by_cases h : name = "id" <;> simp [h]

/-- The fields that are read back are those of the payload, under the identifier kept beside it. -/
theorem fieldValue?_ofFields (id : String) {members : List (String × Json)}
    (distinct : (Members.names members).Nodup) (name : String) :
    (ofFields id members).fieldValue? name =
      if name = "id" then some (.text id)
      else (Members.get? name members).map FieldValue.ofJson := by
  rw [fieldValue?, get?_ofFields id distinct]
  by_cases h : name = "id"
  · rw [if_pos h, if_pos h]
    rfl
  · rw [if_neg h, if_neg h, if_neg h]

theorem ofRow_object (id : String) (members : List (String × Json)) :
    ofRow id (.object members) = .ok (ofFields id members) := rfl

end Record

end RecordStore
