import Mathlib.Data.List.Nodup
import RecordStore.Proofs.Field.Order
import RecordStore.Sort

/-!
# Sorting

Where the values under each sort key are in order, so are the records, and sorting gives the
arrangement in which each record precedes all that come after it.

* `SortSpec.Precedes` — the first key on which two records differ decides, each key in its own
  direction, and the identifier decides if there is none;
* `SortSpec.sort_perm`, `SortSpec.sort_pairwise` — what sorting does;
* `SortSpec.orders_iff_precedes` — where more than a few records can be sorted, with
  `SortSpec.sort?_of_ordered` where the values under each key are in order;
* `SortSpec.eq_of_precedes` — there is only one arrangement of this kind.
-/

namespace RecordStore

open Std FieldValue

/-! ### The comparison of records -/

/-- A record is before another one under a key if its value is smaller, or larger if the key is
descending. -/
def SortKey.before (value : SortKey → Record → Option FieldValue) (key : SortKey)
    (a b : Record) : Prop :=
  match key.direction with
  | .ascending => compareOptional (value key a) (value key b) = .lt
  | .descending => compareOptional (value key b) (value key a) = .lt

namespace SortSpec

/-- The lexicographic order of the keys, with the identifier as the last key. -/
inductive Precedes (value : SortKey → Record → Option FieldValue) :
    SortSpec → Record → Record → Prop where
  | decided {key : SortKey} {rest : SortSpec} {a b : Record} (h : key.before value a b) :
    Precedes value (key :: rest) a b
  | tied {key : SortKey} {rest : SortSpec} {a b : Record}
    (h : compareOptional (value key a) (value key b) = .eq) (later : Precedes value rest a b) :
    Precedes value (key :: rest) a b
  | identified {a b : Record} (h : Text.compare a.id b.id = .lt) : Precedes value [] a b

variable {value : SortKey → Record → Option FieldValue} {scores : List (String × Binary64)}
  {spec : SortSpec} {a b : Record}

theorem before_iff {key : SortKey} :
    key.before value a b ↔
      key.direction.apply (compareOptional (value key a) (value key b)) = .lt := by
  unfold SortKey.before SortDirection.apply
  cases key.direction with
  | ascending => rfl
  | descending =>
    show compareOptional _ _ = .lt ↔ (compareOptional _ _).swap = .lt
    rw [← OrientedCmp.eq_swap]

theorem precedes_cons_iff {key : SortKey} :
    Precedes value (key :: spec) a b ↔
      key.before value a b ∨
        compareOptional (value key a) (value key b) = .eq ∧ Precedes value spec a b := by
  constructor
  · rintro (h | ⟨h, later⟩)
    · exact .inl h
    · exact .inr ⟨h, later⟩
  · rintro (h | ⟨h, later⟩)
    · exact .decided h
    · exact .tied h later

theorem precedes_nil_iff : Precedes value [] a b ↔ Text.compare a.id b.id = .lt :=
  ⟨fun | .identified h => h, .identified⟩

theorem compareRecords_cons (key : SortKey) (rest : SortSpec) (a b : Record) :
    compareRecords scores (key :: rest) a b =
      (key.direction.apply
        (compareOptional (keyValue? scores key a) (keyValue? scores key b))).then
        (compareRecords scores rest a b) := by
  rw [compareRecords, compareKeys, Ordering.then_assoc]
  rfl

/-- The comparison of records decides which one precedes the other one, as far as the scores are
right. -/
theorem compareRecords_lt_iff (ha : ∀ key ∈ spec, keyValue? scores key a = value key a)
    (hb : ∀ key ∈ spec, keyValue? scores key b = value key b) :
    compareRecords scores spec a b = .lt ↔ Precedes value spec a b := by
  induction spec with
  | nil => exact precedes_nil_iff.symm
  | cons key rest ih =>
    rw [List.forall_mem_cons] at ha hb
    have tie (o : Ordering) : key.direction.apply o = .eq ↔ o = .eq := by
      cases key.direction <;> cases o <;> decide
    rw [compareRecords_cons, Ordering.then_eq_lt, precedes_cons_iff, before_iff, ih ha.2 hb.2, tie,
      ha.1, hb.1]

/-- Only equal identifiers compare as equal. -/
theorem id_eq_of_compareRecords (h : compareRecords scores spec a b = .eq) : a.id = b.id :=
  Text.compare_eq_iff.1 (Ordering.then_eq_eq.1 h).2

/-! ### Records in order -/

instance orientedCmp_apply {α : Type} {cmp : α → α → Ordering} [h : OrientedCmp cmp]
    (direction : SortDirection) : OrientedCmp fun a b => direction.apply (cmp a b) where
  eq_swap {a b} := by
    cases direction with
    | ascending => exact h.eq_swap
    | descending => exact congrArg Ordering.swap h.eq_swap

instance transCmp_apply {α : Type} {cmp : α → α → Ordering} [h : TransCmp cmp]
    (direction : SortDirection) : TransCmp fun a b => direction.apply (cmp a b) where
  isLE_trans {a b c} hab hbc := by
    cases direction with
    | ascending => exact h.isLE_trans hab hbc
    | descending =>
      simp only [SortDirection.apply, ← h.eq_swap] at hab hbc ⊢
      exact h.isLE_trans hbc hab

/-- The values of some records under a key are in order. A key that sorts by score asks for
nothing, since scores always are. -/
def Ordered (s : Set Record) (key : SortKey) : Prop :=
  key.isRelevance = false →
    TransCmp (compareIn compareOptional {v | ∃ record ∈ s, record.fieldValue? key.field = v})

theorem Ordered.mono {s t : Set Record} {key : SortKey} (subset : t ⊆ s) (h : Ordered s key) :
    Ordered t key := fun field =>
  have := h field
  transCmp_comap
    (compareIn compareOptional {v | ∃ record ∈ s, record.fieldValue? key.field = v})
    fun v : {v | ∃ record ∈ t, record.fieldValue? key.field = v} =>
      ⟨v.1, v.2.imp fun _ h => ⟨subset h.1, h.2⟩⟩

/-- Records are in order where their values under each key are. -/
theorem transCmp_compareRecords {s : Set Record} (ordered : ∀ key ∈ spec, Ordered s key) :
    TransCmp (compareIn (compareRecords scores spec) s) := by
  induction spec with
  | nil => exact transCmp_comap Text.compare fun record : s => record.1.id
  | cons key rest ih =>
    rw [List.forall_mem_cons] at ordered
    have later := ih ordered.2
    have here : TransCmp fun a b : s =>
        compareOptional (keyValue? scores key a) (keyValue? scores key b) := by
      by_cases h : key.isRelevance
      · -- scores are floating-point numbers only, which are always in order
        have score (a : Record) : keyValue? scores key a =
            (Members.get? a.id scores).map .float := if_pos h
        have compared (x y : Option Binary64) :
            compareOptional (x.map .float) (y.map .float) =
              compareMaybe Binary64.totalCompare x y := by
          cases x <;> cases y <;> rfl
        simp only [score, compared]
        exact transCmp_compareMaybe (fun a : Record => Members.get? a.id scores)
          (transCmp_comap Binary64.totalCompare Subtype.val)
      · have field (a : Record) : keyValue? scores key a = a.fieldValue? key.field := if_neg h
        have := ordered.1 (by simpa using h)
        simp only [field]
        exact transCmp_comap
          (compareIn compareOptional {v | ∃ record ∈ s, record.fieldValue? key.field = v})
          fun record : s => ⟨record.1.fieldValue? key.field, record.1, record.2, rfl⟩
    have first := transCmp_apply (h := here) key.direction
    rw [show compareRecords scores (key :: rest) = _ from funext₂ (compareRecords_cons key rest)]
    exact inferInstanceAs (TransCmp (compareLex
      (fun a b : s => key.direction.apply
        (compareOptional (keyValue? scores key a) (keyValue? scores key b)))
      (compareIn (compareRecords scores rest) s)))

/-- The comparison of records has the opposite outcome the other way round, in order or not. -/
theorem orientedCmp_compareRecords (scores : List (String × Binary64)) (spec : SortSpec) :
    OrientedCmp (compareRecords scores spec) := by
  induction spec with
  | nil => exact orientedCmp_comap Text.compare Record.id
  | cons key rest ih =>
    have here := orientedCmp_comap compareOptional (keyValue? scores key)
    have first := orientedCmp_apply (h := here) key.direction
    rw [show compareRecords scores (key :: rest) = _ from funext₂ (compareRecords_cons key rest)]
    exact inferInstanceAs (OrientedCmp (compareLex
      (fun a b => key.direction.apply
        (compareOptional (keyValue? scores key a) (keyValue? scores key b)))
      (compareRecords scores rest)))

/-! ### Where sorting has a result -/

theorem orders_iff {cmp : Record → Record → Ordering} {records : List Record} :
    Orders cmp records ↔ TransCmp (compareIn cmp {record | record ∈ records}) := by
  constructor
  · rintro ⟨swapped, transitive⟩
    exact
      { eq_swap := fun {a b} => swapped a a.2 b b.2
        isLE_trans := fun {a b c} => transitive a a.2 b b.2 c c.2 }
  · intro h
    exact ⟨fun a ha b hb => h.eq_swap (a := ⟨a, ha⟩) (b := ⟨b, hb⟩), fun a ha b hb c hc =>
      h.isLE_trans (a := ⟨a, ha⟩) (b := ⟨b, hb⟩) (c := ⟨c, hc⟩)⟩

/-- Records of different identifiers are in order exactly if what precedes a record also precedes
whatever that one precedes. -/
theorem orders_iff_precedes {records : List Record} (distinct : (records.map Record.id).Nodup)
    (right : ∀ key ∈ spec, ∀ record ∈ records, keyValue? scores key record = value key record) :
    Orders (compareRecords scores spec) records ↔
      ∀ a ∈ records, ∀ b ∈ records, ∀ c ∈ records,
        Precedes value spec a b → Precedes value spec b c → Precedes value spec a c := by
  have less {a b : Record} (ha : a ∈ records) (hb : b ∈ records) :
      compareRecords scores spec a b = .lt ↔ Precedes value spec a b :=
    compareRecords_lt_iff (fun key mem => right key mem a ha) fun key mem => right key mem b hb
  constructor
  · intro orders a ha b hb c hc
    have h := orders_iff.1 orders
    rw [← less ha hb, ← less hb hc, ← less ha hc]
    exact h.lt_trans (a := ⟨a, ha⟩) (b := ⟨b, hb⟩) (c := ⟨c, hc⟩)
  · intro transitive
    have oriented := orientedCmp_compareRecords scores spec
    refine ⟨fun a _ b _ => oriented.eq_swap, fun a ha b hb c hc hab hbc => ?_⟩
    -- a tie is one of a record with itself
    have same {a b : Record} (ha : a ∈ records) (hb : b ∈ records)
        (tie : compareRecords scores spec a b = .eq) : a = b :=
      List.inj_on_of_nodup_map distinct ha hb (id_eq_of_compareRecords tie)
    rcases Ordering.isLE_iff_eq_lt_or_eq_eq.1 hab with ab | ab
    · rcases Ordering.isLE_iff_eq_lt_or_eq_eq.1 hbc with bc | bc
      · have ac := transitive a ha b hb c hc ((less ha hb).1 ab) ((less hb hc).1 bc)
        rw [(less ha hc).2 ac]
        rfl
      · rwa [← same hb hc bc]
    · rwa [same ha hb ab]

theorem sort?_eq_some_iff {records sorted : List Record} :
    sort? scores spec records = some sorted ↔
      Sortable scores spec records ∧ sort scores spec records = sorted := by
  rw [sort?, Option.ite_none_right_eq_some, Option.some.injEq]

theorem sort?_of_ordered {records : List Record}
    (ordered : ∀ key ∈ spec, Ordered {record | record ∈ records} key) :
    sort? scores spec records = some (sort scores spec records) :=
  if_pos (.inr (orders_iff.2 (transCmp_compareRecords ordered)))

/-! ### Insertion -/

section Insertion

variable {cmp : Record → Record → Ordering}

theorem insert_perm (record : Record) (sorted : List Record) :
    (insert cmp record sorted).Perm (record :: sorted) := by
  induction sorted with
  | nil => exact .refl _
  | cons last rest ih =>
    rw [insert]
    split
    · exact (ih.cons last).trans (.swap record last rest)
    · exact .refl _

theorem insertAll_perm (sorted records : List Record) :
    (insertAll cmp sorted records).Perm (records ++ sorted) := by
  induction records generalizing sorted with
  | nil => exact .refl _
  | cons record rest ih =>
    have inserted : (rest ++ insert cmp record sorted).Perm (rest ++ record :: sorted) :=
      (insert_perm record sorted).append_left rest
    exact (ih _).trans (inserted.trans List.perm_middle)

/-- Insertion keeps a list in descending order. -/
theorem insert_pairwise {s : Set Record} (h : TransCmp (compareIn cmp s)) {record : Record}
    (known : record ∈ s) {sorted : List Record} (within : ∀ other ∈ sorted, other ∈ s)
    (descending : sorted.Pairwise fun later earlier => (cmp earlier later).isLE) :
    (insert cmp record sorted).Pairwise fun later earlier => (cmp earlier later).isLE := by
  induction sorted with
  | nil => exact List.pairwise_singleton _ record
  | cons last rest ih =>
    obtain ⟨below, descending'⟩ := List.pairwise_cons.1 descending
    rw [List.forall_mem_cons] at within
    rw [insert]
    split
    · next less =>
      refine List.pairwise_cons.2 ⟨fun other mem => ?_, ih within.2 descending'⟩
      rcases List.mem_cons.1 ((insert_perm record rest).subset mem) with rfl | mem
      · rw [less]
        rfl
      · exact below other mem
    · next notLess =>
      -- everything in the list is at most its first element, and that one at most the record
      have first : (cmp last record).isLE := by
        have swap : cmp last record = (cmp record last).swap :=
          h.eq_swap (a := ⟨last, within.1⟩) (b := ⟨record, known⟩)
        rw [swap]
        revert notLess
        cases cmp record last <;> simp
      refine List.pairwise_cons.2 ⟨fun other mem => ?_, descending⟩
      rcases List.mem_cons.1 mem with rfl | mem
      · exact first
      · exact h.isLE_trans (a := ⟨other, within.2 other mem⟩) (b := ⟨last, within.1⟩)
          (c := ⟨record, known⟩) (below other mem) first

theorem insertAll_pairwise {s : Set Record} (h : TransCmp (compareIn cmp s))
    {sorted records : List Record} (within : ∀ record ∈ records ++ sorted, record ∈ s)
    (descending : sorted.Pairwise fun later earlier => (cmp earlier later).isLE) :
    (insertAll cmp sorted records).Pairwise fun later earlier => (cmp earlier later).isLE := by
  induction records generalizing sorted with
  | nil => exact descending
  | cons record rest ih =>
    have known : record ∈ s := within record List.mem_cons_self
    have others : ∀ other ∈ sorted, other ∈ s := fun other mem =>
      within other (List.mem_cons_of_mem _ (List.mem_append_right _ mem))
    refine ih (fun other mem => within other ?_) (insert_pairwise h known others descending)
    have mem := ((insert_perm record sorted).append_left rest).subset mem
    exact List.perm_middle.subset mem

end Insertion

/-! ### Sorting -/

theorem sort_perm (scores : List (String × Binary64)) (spec : SortSpec) (records : List Record) :
    (sort scores spec records).Perm records := by
  have inserted : (insertAll (compareRecords scores spec) [] records).Perm (records ++ []) :=
    insertAll_perm [] records
  rw [List.append_nil] at inserted
  exact (List.reverse_perm _).trans inserted

/-- Sorting records of different identifiers gives an arrangement in which each record precedes all
that come after it. -/
theorem sort_pairwise {records : List Record} (distinct : (records.map Record.id).Nodup)
    (ordered : ∀ key ∈ spec, Ordered {record | record ∈ records} key)
    (right : ∀ key ∈ spec, ∀ record ∈ records, keyValue? scores key record = value key record) :
    (sort scores spec records).Pairwise (Precedes value spec) := by
  have ascending : (sort scores spec records).Pairwise fun a b =>
      (compareRecords scores spec a b).isLE := by
    rw [sort, List.pairwise_reverse]
    exact insertAll_pairwise (transCmp_compareRecords ordered) (by simp) .nil
  have perm := sort_perm scores spec records
  have apart : (sort scores spec records).Pairwise fun a b => a.id ≠ b.id :=
    List.pairwise_map.1 ((perm.map Record.id).nodup_iff.2 distinct)
  -- a tie would be one between records of the same identifier
  refine (ascending.and apart).imp_of_mem ?_
  rintro a b ha hb ⟨le, ne⟩
  have ha := perm.subset ha
  have hb := perm.subset hb
  rw [← compareRecords_lt_iff (fun key mem => right key mem a ha) fun key mem => right key mem b hb]
  rcases Ordering.isLE_iff_eq_lt_or_eq_eq.1 le with less | same
  · exact less
  · exact absurd (id_eq_of_compareRecords same) ne

theorem sort?_perm {records sorted : List Record} (h : sort? scores spec records = some sorted) :
    sorted.Perm records :=
  (sort?_eq_some_iff.1 h).2 ▸ sort_perm scores spec records

theorem not_before_of_before {key : SortKey} (h : key.before value a b) :
    ¬ key.before value b a := by
  obtain ⟨field, direction⟩ := key
  cases direction with
  | ascending => exact OrientedCmp.not_lt_of_lt h
  | descending => exact OrientedCmp.not_lt_of_lt h

theorem not_tied_of_before {key : SortKey} (h : key.before value a b) :
    compareOptional (value key a) (value key b) ≠ .eq := by
  intro tie
  obtain ⟨field, direction⟩ := key
  cases direction with
  | ascending => exact nomatch tie.symm.trans h
  | descending => exact nomatch (OrientedCmp.eq_symm tie).symm.trans h

theorem not_precedes_of_precedes (h : Precedes value spec a b) : ¬ Precedes value spec b a := by
  induction h with
  | decided here =>
    rintro (back | ⟨tie, _⟩)
    · exact not_before_of_before here back
    · exact not_tied_of_before here (OrientedCmp.eq_symm tie)
  | tied tie _ ih =>
    rintro (back | ⟨_, later⟩)
    · exact not_tied_of_before back (OrientedCmp.eq_symm tie)
    · exact ih later
  | identified here =>
    intro back
    exact OrientedCmp.not_lt_of_lt here (precedes_nil_iff.1 back)

/-- There is only one arrangement in which each record precedes all that come after it. -/
theorem eq_of_precedes {l l' : List Record} (perm : l.Perm l')
    (h : l.Pairwise (Precedes value spec)) (h' : l'.Pairwise (Precedes value spec)) : l = l' :=
  perm.eq_of_pairwise (fun _ _ _ _ less more => absurd more (not_precedes_of_precedes less)) h h'

end SortSpec

end RecordStore
