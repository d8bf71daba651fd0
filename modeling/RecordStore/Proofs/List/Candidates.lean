import Mathlib.Data.List.Nodup
import Mathlib.Data.List.Perm.Subperm
import RecordStore.Proofs.List.Pipeline

/-!
# Lists made from candidates

A backend may hand over any records of a table in any order, as long as it hands over all that match
the filters. The list is the same as the one made from the whole table, since its arrangement is the
only one in which each record that is kept precedes all that come after it.

* `ListResult.filtered_perm` — the filters make up for what a backend hands over beyond the matches;
* `ListResult.exists_execute?`, `ListResult.execute?_of_candidates` — the list of a table in order,
  and the one made from candidates;
* `ListResult.execute_of_candidates` — which is there where the values under each key are in order,
  and what it is.
-/

namespace RecordStore.ListResult

variable {records candidates : List Record} {params : ListParams}

/-- Candidates have identifiers of their own if the records of the table do. -/
theorem distinct_of_subperm (distinct : (records.map Record.id).Nodup)
    (chosen : candidates.Subperm records) : (candidates.map Record.id).Nodup := by
  obtain ⟨selection, perm, part⟩ := chosen
  have ids : (selection.map Record.id).Nodup := distinct.sublist (part.map Record.id)
  exact (perm.map Record.id).nodup_iff.1 ids

/-- The filters let through the same records of the candidates and of the table. -/
theorem filtered_perm (distinct : (records.map Record.id).Nodup)
    (chosen : candidates.Subperm records)
    (complete : ∀ record ∈ records,
      FilterSet.matches params.filters record = true → record ∈ candidates) :
    (FilterSet.apply params.filters candidates).Perm (FilterSet.apply params.filters records) := by
  have nodup {l : List Record} (ids : (l.map Record.id).Nodup) :
      (FilterSet.apply params.filters l).Nodup := (ids.of_map Record.id).sublist List.filter_sublist
  -- no record is there twice, so that it is enough to compare the members
  refine (List.perm_ext_iff_of_nodup (nodup (distinct_of_subperm distinct chosen))
    (nodup distinct)).2 fun record => ?_
  rw [FilterSet.apply, FilterSet.apply, List.mem_filter, List.mem_filter]
  constructor
  · rintro ⟨mem, fits⟩
    exact ⟨chosen.subset mem, fits⟩
  · rintro ⟨mem, fits⟩
    exact ⟨complete record mem fits, fits⟩

/-- Candidates that contain all matching records give the same arrangement as the whole table. -/
theorem arranged?_of_candidates (distinct : (records.map Record.id).Nodup)
    (ordered : ∀ key ∈ params.sort, SortSpec.Ordered {record | record ∈ records} key)
    (chosen : candidates.Subperm records)
    (complete : ∀ record ∈ records,
      FilterSet.matches params.filters record = true → record ∈ candidates) :
    params.arranged? candidates = params.arranged? records := by
  have distinct' := distinct_of_subperm distinct chosen
  have ordered' : ∀ key ∈ params.sort, SortSpec.Ordered {record | record ∈ candidates} key :=
    fun key mem => (ordered key mem).mono fun record mem => chosen.subset mem
  have kept : (params.kept candidates).Perm (params.kept records) :=
    (filtered_perm distinct chosen complete).filter params.finds
  obtain ⟨whole, arranged, perm, pairwise⟩ := ListParams.exists_arranged? distinct ordered
  obtain ⟨chosen, arranged', perm', pairwise'⟩ := ListParams.exists_arranged? distinct' ordered'
  have same : chosen = whole :=
    SortSpec.eq_of_precedes (perm'.trans (kept.trans perm.symm)) pairwise' pairwise
  rw [arranged, arranged', same]

/-- Where the values under each key are in order there is a list. -/
theorem exists_execute? (distinct : (records.map Record.id).Nodup)
    (ordered : ∀ key ∈ params.sort, SortSpec.Ordered {record | record ∈ records} key) :
    ∃ listed, execute? records params = some listed := by
  obtain ⟨whole, arranged, -⟩ := ListParams.exists_arranged? distinct ordered
  rw [execute?_eq distinct, arranged]
  exact ⟨_, rfl⟩

theorem execute?_of_candidates (distinct : (records.map Record.id).Nodup)
    (ordered : ∀ key ∈ params.sort, SortSpec.Ordered {record | record ∈ records} key)
    (chosen : candidates.Subperm records)
    (complete : ∀ record ∈ records,
      FilterSet.matches params.filters record = true → record ∈ candidates) :
    execute? candidates params = execute? records params := by
  rw [execute?_eq distinct, execute?_eq (distinct_of_subperm distinct chosen),
    arranged?_of_candidates distinct ordered chosen complete]

/-- A list made from candidates that contain all matching records, in any order, is the list of the
whole table, and there is one. Its records before a page is cut out are the only arrangement of the
records kept in which each one precedes all that come after it: by the keys of the sort, each in its
own direction and with a missing value as the minimum, and by the identifier in the end. -/
theorem execute_of_candidates (distinct : (records.map Record.id).Nodup)
    (ordered : ∀ key ∈ params.sort, SortSpec.Ordered {record | record ∈ records} key)
    (chosen : candidates.Subperm records)
    (complete : ∀ record ∈ records,
      FilterSet.matches params.filters record = true → record ∈ candidates) :
    execute? candidates params = execute? records params ∧
      (execute? records params).isSome = true ∧
      ∀ arrangement : List Record,
        (execute? records { params with page := .unpaged }).map ListResult.records =
            some arrangement ↔
          arrangement.Perm (params.kept records) ∧
            arrangement.Pairwise (SortSpec.Precedes params.keyValue? params.sort) := by
  obtain ⟨whole, arranged, perm, pairwise⟩ := ListParams.exists_arranged? distinct ordered
  refine ⟨execute?_of_candidates distinct ordered chosen complete, ?_, fun arrangement => ?_⟩
  · exact Option.isSome_iff_exists.2 (exists_execute? distinct ordered)
  · have unpaged : (execute? records { params with page := .unpaged }).map ListResult.records =
        some whole := arranged
    rw [unpaged, Option.some.injEq]
    constructor
    · rintro rfl
      exact ⟨perm, pairwise⟩
    · rintro ⟨perm', pairwise'⟩
      exact SortSpec.eq_of_precedes (perm.trans perm'.symm) pairwise pairwise'

/-- A record with a kind, a title and a price. -/
def priced (id kind title : String) (price : Int64) : Record :=
  ⟨id, .ofList [("kind", .text kind), ("title", .text title), ("price", .integer price)]⟩

/-- A table of books and films. -/
def shelf : List Record :=
  [priced "a" "book" "Lean basics" 5, priced "b" "book" "lean" 5, priced "c" "film" "lean" 9,
    priced "d" "book" "Clean code" 7, priced "e" "film" "Rust" 1]

/-- The books and one of the films, as a backend might hand them over. -/
def fetched : List Record :=
  [priced "d" "book" "Clean code" 7, priced "a" "book" "Lean basics" 5,
    priced "c" "film" "lean" 9, priced "b" "book" "lean" 5]

/-- A search for books, the dearest and then the best ones first, two on a page. -/
def dearest : ListParams where
  filters := [⟨"kind", .text .equals "book" false⟩]
  sort := [⟨"price", .descending⟩, ⟨relevanceKey, .descending⟩]
  search := some ⟨"lean", ["title"]⟩
  page := ⟨2, 1⟩

theorem execute_fetched :
    (shelf.map Record.id).Nodup ∧
      (∀ key ∈ dearest.sort, SortSpec.Ordered {record | record ∈ shelf} key) ∧
      fetched.Subperm shelf ∧
      (∀ record ∈ shelf, FilterSet.matches dearest.filters record = true → record ∈ fetched) ∧
      execute? fetched dearest = execute? shelf dearest ∧
      (execute? shelf { dearest with page := .unpaged }).map ListResult.records =
        some [priced "d" "book" "Clean code" 7, priced "b" "book" "lean" 5,
          priced "a" "book" "Lean basics" 5] := by
  have distinct : (shelf.map Record.id).Nodup := by decide
  have prices : ∀ record ∈ shelf, ∃ i, record.fieldValue? "price" = some (.integer i) := by
    refine List.forall_mem_cons.2 ⟨⟨5, rfl⟩, List.forall_mem_cons.2 ⟨⟨5, rfl⟩, ?_⟩⟩
    refine List.forall_mem_cons.2 ⟨⟨9, rfl⟩, List.forall_mem_cons.2 ⟨⟨7, rfl⟩, ?_⟩⟩
    exact List.forall_mem_singleton.2 ⟨1, rfl⟩
  have ordered : ∀ key ∈ dearest.sort, SortSpec.Ordered {record | record ∈ shelf} key := by
    refine List.forall_mem_cons.2 ⟨fun _ => FieldValue.transCmp_of_unmixed ?_ ?_,
      List.forall_mem_singleton.2 nofun⟩
    · rintro _ x _ ⟨record, mem, h⟩
      obtain ⟨i, hi⟩ := prices record mem
      exact nomatch hi.symm.trans h
    · rintro _ w _ ⟨record, mem, h⟩
      obtain ⟨i, hi⟩ := prices record mem
      exact nomatch hi.symm.trans h
  have chosen : fetched.Subperm shelf := by
    have ids : (fetched.map Record.id).Nodup := by decide
    refine List.subperm_of_subset (ids.of_map Record.id) fun record mem => ?_
    simp only [fetched, shelf, List.mem_cons, List.not_mem_nil, or_false] at mem ⊢
    rcases mem with rfl | rfl | rfl | rfl
    · exact .inr (.inr (.inr (.inl rfl)))
    · exact .inl rfl
    · exact .inr (.inr (.inl rfl))
    · exact .inr (.inl rfl)
  have complete : ∀ record ∈ shelf,
      FilterSet.matches dearest.filters record = true → record ∈ fetched := by
    intro record mem fits
    simp only [fetched, shelf, List.mem_cons, List.not_mem_nil, or_false] at mem ⊢
    rcases mem with rfl | rfl | rfl | rfl | rfl
    · exact .inr (.inl rfl)
    · exact .inr (.inr (.inr rfl))
    · exact .inr (.inr (.inl rfl))
    · exact .inl rfl
    · exact absurd fits (by decide +kernel)
  have listed := execute_of_candidates distinct ordered chosen complete
  exact ⟨distinct, ordered, chosen, complete, listed.1, rfl⟩

end RecordStore.ListResult
