import RecordStore.Store.Key

/-!
# Stores

A store holds records under their keys, in ascending order of the keys. So the records of a table
come in ascending order of their identifiers, and two stores with the same records are equal.

* `Store.get?` — the record under a key, the view through which a store is seen;
* `Store.put`, `Store.erase` — store and remove a record;
* `Store.table` — the records of a table, and `Arrangement` an order to hand them over in;
* `Store.ext` — stores in which every key has the same record are equal.
-/

namespace RecordStore

/-- An order in which the records of a table are handed over. The table itself prescribes none. -/
structure Arrangement where
  apply : List Record → List Record
  perm : ∀ records, (apply records).Perm records

namespace Arrangement

/-- The order of the identifiers, in which the tables are kept here. -/
def byId : Arrangement := ⟨id, fun _ => .refl _⟩

/-- The other way round. -/
def reversed : Arrangement := ⟨List.reverse, List.reverse_perm⟩

end Arrangement

/-- Records under their keys. -/
structure Store where
  rows : List (Key × Record)
  ascending : rows.Pairwise fun a b => a.1.compare b.1 = .lt

namespace Store

/-- The record of the first row with this key. -/
def find? (key : Key) : List (Key × Record) → Option Record
  | [] => none
  | (other, record) :: rest => if other = key then some record else find? key rest

/-- Put a row in its place; it replaces the one with the same key. -/
def insertRow (key : Key) (record : Record) : List (Key × Record) → List (Key × Record)
  | [] => [(key, record)]
  | (other, old) :: rest =>
    match key.compare other with
    | .lt => (key, record) :: (other, old) :: rest
    | .eq => (key, record) :: rest
    | .gt => (other, old) :: insertRow key record rest

theorem mem_insertRow {key : Key} {record : Record} {rows : List (Key × Record)}
    {row : Key × Record} (h : row ∈ insertRow key record rows) :
    row = (key, record) ∨ row ∈ rows := by
  induction rows with
  | nil => simpa [insertRow] using h
  | cons first rest ih =>
    obtain ⟨other, old⟩ := first
    simp only [insertRow] at h
    split at h
    · simpa using h
    · exact (List.mem_cons.1 h).imp_right (List.mem_cons_of_mem _)
    · rcases List.mem_cons.1 h with h | h
      · simp [h]
      · exact (ih h).imp_right (List.mem_cons_of_mem _)

theorem ascending_insertRow {key : Key} {record : Record} {rows : List (Key × Record)}
    (h : rows.Pairwise fun a b => a.1.compare b.1 = .lt) :
    (insertRow key record rows).Pairwise fun a b => a.1.compare b.1 = .lt := by
  induction rows with
  | nil => simp [insertRow]
  | cons first rest ih =>
    obtain ⟨other, old⟩ := first
    rw [List.pairwise_cons] at h
    simp only [insertRow]
    split
    next hlt =>
      refine List.pairwise_cons.2 ⟨fun row hrow => ?_, List.pairwise_cons.2 h⟩
      rcases List.mem_cons.1 hrow with rfl | hrow
      · exact hlt
      · exact Std.TransCmp.lt_trans hlt (h.1 row hrow)
    next heq => exact List.pairwise_cons.2 ⟨Key.compare_eq_iff.1 heq ▸ h.1, h.2⟩
    next hgt =>
      refine List.pairwise_cons.2 ⟨fun row hrow => ?_, ih h.2⟩
      rcases mem_insertRow hrow with rfl | hrow
      · exact Std.OrientedCmp.gt_iff_lt.1 hgt
      · exact h.1 row hrow

/-- The store without records. -/
def empty : Store := ⟨[], .nil⟩

instance : Inhabited Store := ⟨empty⟩

/-- The record under a key. -/
def get? (store : Store) (key : Key) : Option Record := find? key store.rows

/-- Whether there is a record under a key. -/
def contains (store : Store) (key : Key) : Bool := (store.get? key).isSome

/-- Store a record under a key, in place of the one that is there. -/
def put (store : Store) (key : Key) (record : Record) : Store :=
  ⟨insertRow key record store.rows, ascending_insertRow store.ascending⟩

/-- Remove the record under a key. -/
def erase (store : Store) (key : Key) : Store :=
  ⟨store.rows.filter fun row => decide (row.1 ≠ key), store.ascending.filter _⟩

/-- The records of a table, in ascending order of their identifiers. -/
def table (store : Store) (place : Place) : List Record :=
  (store.rows.filter fun row => decide (row.1.place = place)).map Prod.snd

theorem find?_eq_none {key : Key} {rows : List (Key × Record)} (h : ∀ row ∈ rows, row.1 ≠ key) :
    find? key rows = none := by
  induction rows with
  | nil => rfl
  | cons first rest ih =>
    rw [find?, if_neg (h first List.mem_cons_self)]
    exact ih fun row hrow => h row (List.mem_cons_of_mem _ hrow)

theorem find?_eq_some_iff {key : Key} {record : Record} {rows : List (Key × Record)}
    (h : rows.Pairwise fun a b => a.1.compare b.1 = .lt) :
    find? key rows = some record ↔ (key, record) ∈ rows := by
  induction rows with
  | nil => simp [find?]
  | cons first rest ih =>
    obtain ⟨other, old⟩ := first
    rw [List.pairwise_cons] at h
    by_cases hk : other = key
    · subst hk
      constructor
      · intro heq
        simp only [find?, if_true, Option.some.injEq] at heq
        simp [heq]
      · intro hmem
        rcases List.mem_cons.1 hmem with heq | hmem
        · simp only [Prod.mk.injEq] at heq
          simp [find?, heq]
        · have := h.1 _ hmem
          simp [Std.ReflCmp.compare_self] at this
    · simp only [find?, hk, if_false, ih h.2, List.mem_cons, Prod.mk.injEq]
      constructor
      · exact .inr
      · rintro (⟨heq, -⟩ | hmem)
        · exact absurd heq.symm hk
        · exact hmem

theorem get?_eq_some_iff {store : Store} {key : Key} {record : Record} :
    store.get? key = some record ↔ (key, record) ∈ store.rows :=
  find?_eq_some_iff store.ascending

theorem find?_insertRow (key other : Key) (record : Record) (rows : List (Key × Record)) :
    find? other (insertRow key record rows) =
      if key = other then some record else find? other rows := by
  induction rows with
  | nil => simp [insertRow, find?]
  | cons first rest ih =>
    obtain ⟨k, old⟩ := first
    simp only [insertRow]
    split
    next => simp [find?]
    next heq =>
      obtain rfl := Key.compare_eq_iff.1 heq
      by_cases h : key = other <;> simp [find?, h]
    next hgt =>
      by_cases hk : k = other
      · have : key ≠ other := by
          rintro rfl
          rw [hk, Key.compare_eq_iff.2 rfl] at hgt
          cases hgt
        simp [find?, hk, this]
      · simp [find?, hk, ih]

@[simp] theorem get?_empty (key : Key) : empty.get? key = none := rfl

theorem get?_put (store : Store) (key other : Key) (record : Record) :
    (store.put key record).get? other = if key = other then some record else store.get? other :=
  find?_insertRow key other record store.rows

theorem get?_erase (store : Store) (key other : Key) :
    (store.erase key).get? other = if key = other then none else store.get? other := by
  apply Option.ext
  intro record
  by_cases h : key = other
  · subst h
    simp [get?_eq_some_iff, erase]
  · simp [get?_eq_some_iff, erase, h, Ne.symm h]

/-- Two ascending lists of rows with the same rows are equal. -/
theorem rows_eq_of_mem_iff {as bs : List (Key × Record)}
    (ha : as.Pairwise fun a b => a.1.compare b.1 = .lt)
    (hb : bs.Pairwise fun a b => a.1.compare b.1 = .lt) (h : ∀ row, row ∈ as ↔ row ∈ bs) :
    as = bs := by
  induction as generalizing bs with
  | nil =>
    cases bs with
    | nil => rfl
    | cons b bs => simpa using (h b).2 List.mem_cons_self
  | cons a as ih =>
    cases bs with
    | nil => simpa using (h a).1 List.mem_cons_self
    | cons b bs =>
      rw [List.pairwise_cons] at ha hb
      have asymm {k l : Key} (h₁ : k.compare l = .lt) (h₂ : l.compare k = .lt) : False :=
        Std.OrientedCmp.not_lt_of_lt h₁ h₂
      have heads : a = b := by
        rcases List.mem_cons.1 ((h a).1 List.mem_cons_self) with hab | hab
        · exact hab
        · rcases List.mem_cons.1 ((h b).2 List.mem_cons_self) with hba | hba
          · exact hba.symm
          · exact (asymm (ha.1 b hba) (hb.1 a hab)).elim
      subst heads
      congr 1
      refine ih ha.2 hb.2 fun row => ⟨fun hrow => ?_, fun hrow => ?_⟩
      · rcases List.mem_cons.1 ((h row).1 (List.mem_cons_of_mem _ hrow)) with rfl | hrow'
        · exact (asymm (ha.1 row hrow) (ha.1 row hrow)).elim
        · exact hrow'
      · rcases List.mem_cons.1 ((h row).2 (List.mem_cons_of_mem _ hrow)) with rfl | hrow'
        · exact (asymm (hb.1 row hrow) (hb.1 row hrow)).elim
        · exact hrow'

/-- A store is determined by the records under its keys. -/
theorem ext {a b : Store} (h : ∀ key, a.get? key = b.get? key) : a = b := by
  have rows : a.rows = b.rows := rows_eq_of_mem_iff a.ascending b.ascending fun row => by
    rw [← get?_eq_some_iff, ← get?_eq_some_iff, h]
  obtain ⟨as, ha⟩ := a
  obtain ⟨bs, hb⟩ := b
  simpa using rows

end Store

end RecordStore
