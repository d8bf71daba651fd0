import RecordStore.List.Engine
import RecordStore.Proofs.Members
import RecordStore.Proofs.Sort

/-!
# What a list is made of

A list is a page of an arrangement: the records that the filters let through and the search finds,
sorted. The hits of the page are those of its records, whatever else was searched.

* `ListParams.kept`, `ListParams.arranged?` — the records of a list and their arrangement;
* `ListResult.execute?_eq` — a list is the answer made of the page of the arrangement;
* `ListParams.isSome_arranged?_iff` — where there is an arrangement;
* `ListParams.exists_arranged?` — what it is where the values under each key are in order, with
  `ListParams.arranged?_eq_of_ascending` where nothing is sorted.
-/

namespace RecordStore

/-! ### The records of a list -/

namespace ListParams

/-- The hit of a record, if the list has a search and the search finds the record. -/
def hit? (params : ListParams) (record : Record) : Option SearchHit :=
  params.activeSearch?.bind fun spec => Search.hit? (Text.trim spec.query) spec.fields record

/-- Whether a record is found; without a search every one is. -/
def finds (params : ListParams) (record : Record) : Bool :=
  params.activeSearch?.isNone || (params.hit? record).isSome

/-- The value of a record under a key: its score, or a field. -/
def keyValue? (params : ListParams) (key : SortKey) (record : Record) : Option FieldValue :=
  if key.isRelevance then (params.hit? record).map fun hit => .float hit.score
  else record.fieldValue? key.field

/-- The records that the filters let through and the search finds. -/
def kept (params : ListParams) (records : List Record) : List Record :=
  (FilterSet.apply params.filters records).filter params.finds

/-- The records of a list in their order, before a page is cut out, if they can be sorted. -/
def arranged? (params : ListParams) (records : List Record) : Option (List Record) :=
  (ListResult.execute? records { params with page := .unpaged }).map ListResult.records

/-- The answer whose records are the page of an arrangement. -/
def answer (params : ListParams) (arrangement : List Record) : ListResult Record :=
  let (page, info) := params.page.paginate arrangement
  ⟨page, arrangement.length, info, page.filterMap params.hit?⟩

end ListParams

/-- A page is a part of the items in their order. -/
theorem PageRequest.paginate_sublist {α : Type} (request : PageRequest) (items : List α) :
    (request.paginate items).1.Sublist items := by
  unfold paginate
  split
  · exact (List.take_sublist _ _).trans (List.drop_sublist _ _)
  · exact .refl _

namespace ListResult

variable {records : List Record} {params : ListParams}

/-! ### The hits of a list -/

section Hits

variable {f : Record → Option SearchHit}

theorem recordIds_sublist (named : ∀ {record hit}, f record = some hit → hit.recordId = record.id)
    (records : List Record) :
    ((records.filterMap f).map SearchHit.recordId).Sublist (records.map Record.id) := by
  induction records with
  | nil => exact .refl _
  | cons record rest ih =>
    cases hf : f record with
    | none =>
      rw [List.filterMap_cons_none hf]
      exact ih.cons _
    | some hit =>
      rw [List.filterMap_cons_some hf, List.map_cons, List.map_cons, named hf]
      exact ih.cons_cons _

theorem get?_hits (named : ∀ {record hit}, f record = some hit → hit.recordId = record.id)
    (distinct : (records.map Record.id).Nodup) {record : Record} (mem : record ∈ records) :
    Members.get? record.id ((records.filterMap f).map fun hit => (hit.recordId, hit)) =
      f record := by
  induction records with
  | nil => exact absurd mem List.not_mem_nil
  | cons other rest ih =>
    rw [List.map_cons, List.nodup_cons] at distinct
    have later (mem : record ∈ rest) : other.id ≠ record.id := fun same =>
      distinct.1 (same ▸ List.mem_map_of_mem mem)
    cases hf : f other with
    | none =>
      rw [List.filterMap_cons_none hf]
      rcases List.mem_cons.1 mem with rfl | mem
      · -- no other record has this identifier
        rw [hf]
        refine Members.get?_eq_none_of_notMem fun found => distinct.1 ?_
        refine (recordIds_sublist named rest).subset ?_
        simpa [Members.names, Function.comp_def] using found
      · exact ih distinct.2 mem
    | some hit =>
      rw [List.filterMap_cons_some hf, List.map_cons, Members.get?, named hf]
      rcases List.mem_cons.1 mem with rfl | mem
      · rw [if_pos rfl, hf]
      · rw [if_neg (later mem), ih distinct.2 mem]

theorem get?_hitsById (named : ∀ {record hit}, f record = some hit → hit.recordId = record.id)
    (distinct : (records.map Record.id).Nodup) {record : Record} (mem : record ∈ records) :
    Members.get? record.id (hitsById (records.filterMap f)) = f record := by
  have ids : (Members.names ((records.filterMap f).map fun hit => (hit.recordId, hit))).Nodup := by
    have := distinct.sublist (recordIds_sublist named records)
    simpa [Members.names, Function.comp_def] using this
  rw [hitsById, Members.get?_distinct ids, get?_hits named distinct mem]

/-- Each record of a page takes its own hit. -/
theorem takeHits_eq {page : List Record} (distinct : (page.map Record.id).Nodup)
    {hits : List (String × SearchHit)}
    (right : ∀ record ∈ page, Members.get? record.id hits = f record) :
    takeHits hits page = page.filterMap f := by
  induction page generalizing hits with
  | nil => rfl
  | cons record rest ih =>
    -- the hit that is given out was that of this record, and the rest of the page has other ones
    rw [List.map_cons, List.nodup_cons] at distinct
    rw [List.forall_mem_cons] at right
    rw [takeHits, right.1]
    cases hf : f record with
    | none =>
      rw [List.filterMap_cons_none hf]
      exact ih distinct.2 right.2
    | some hit =>
      rw [List.filterMap_cons_some hf]
      refine congrArg (hit :: ·) (ih distinct.2 fun other mem => ?_)
      have ne : other.id ≠ record.id := fun same => distinct.1 (same ▸ List.mem_map_of_mem mem)
      rw [Members.get?_erase_of_ne ne, right.2 other mem]

end Hits

/-! ### From the records to the answer -/

theorem recordId_of_hit? {query : String} {fields : List String} {record : Record}
    {hit : SearchHit} (h : Search.hit? query fields record = some hit) :
    hit.recordId = record.id := by
  obtain ⟨grade, _, rfl⟩ := Option.map_eq_some_iff.1 h
  rfl

/-- The hits that a list has at hand when it sorts. -/
def hitsOf (params : ListParams) (records : List Record) : List (String × SearchHit) :=
  match params.activeSearch? with
  | none => []
  | some spec => hitsById (Search.hits records spec)

theorem get?_hitsOf (distinct : (records.map Record.id).Nodup) {record : Record}
    (mem : record ∈ records) :
    Members.get? record.id (hitsOf params records) = params.hit? record := by
  unfold hitsOf ListParams.hit?
  cases active : params.activeSearch? with
  | none => rfl
  | some spec =>
    have : Search.isActive spec = true := (Option.filter_eq_some_iff.1 active).2
    simp only [Search.hits, this, if_true, Option.bind_some]
    exact get?_hitsById recordId_of_hit? distinct mem

/-- The records that a list has found when it sorts: those whose identifiers have a hit. -/
def foundOf (params : ListParams) (records : List Record) : List Record :=
  match params.activeSearch? with
  | none => records
  | some _ => records.filter fun record => Members.contains record.id (hitsOf params records)

theorem foundOf_eq (distinct : (records.map Record.id).Nodup) :
    foundOf params records = records.filter params.finds := by
  unfold foundOf
  cases active : params.activeSearch? with
  | none =>
    have all : ∀ record ∈ records, params.finds record = true := by
      intro record _
      rw [ListParams.finds, active]
      rfl
    exact (List.filter_eq_self.2 all).symm
  | some spec =>
    refine List.filter_congr fun record mem => ?_
    rw [Members.contains, get?_hitsOf distinct mem, ListParams.finds, active]
    rfl

/-- The scores by which a list is sorted. -/
def scoresOf (params : ListParams) (records : List Record) : List (String × Binary64) :=
  Members.mapValues SearchHit.score (hitsOf params records)

theorem keyValue?_scoresOf (distinct : (records.map Record.id).Nodup) {record : Record}
    (mem : record ∈ records) (key : SortKey) :
    SortSpec.keyValue? (scoresOf params records) key record = params.keyValue? key record := by
  rw [SortSpec.keyValue?, ListParams.keyValue?, scoresOf, Members.get?_mapValues,
    get?_hitsOf distinct mem, Option.map_map]
  rfl

theorem finish?_unfold (records : List Record) (params : ListParams) :
    finish? records params =
      (SortSpec.sort? (scoresOf params records) params.sort (foundOf params records)).map
        fun sorted =>
          let page := (params.page.paginate sorted).1
          ⟨page, sorted.length, (params.page.paginate sorted).2,
            takeHits (hitsOf params records) page⟩ := rfl

/-- Of the search only the hits of the records themselves matter. -/
theorem finish?_eq (distinct : (records.map Record.id).Nodup) :
    finish? records params =
      (SortSpec.sort? (scoresOf params records) params.sort (records.filter params.finds)).map
        params.answer := by
  rw [finish?_unfold, foundOf_eq distinct]
  cases sorted : SortSpec.sort? (scoresOf params records) params.sort
      (records.filter params.finds) with
  | none => rfl
  | some arrangement =>
    have perm := SortSpec.sort?_perm sorted
    have known : ∀ record ∈ arrangement, record ∈ records := fun record mem =>
      (List.mem_filter.1 (perm.subset mem)).1
    have ids : (arrangement.map Record.id).Nodup :=
      (perm.map Record.id).nodup_iff.2 (distinct.sublist (List.filter_sublist.map Record.id))
    have page := params.page.paginate_sublist arrangement
    have hits : takeHits (hitsOf params records) (params.page.paginate arrangement).1 =
        (params.page.paginate arrangement).1.filterMap params.hit? :=
      takeHits_eq (ids.sublist (page.map Record.id)) fun record mem =>
        get?_hitsOf distinct (known record (page.subset mem))
    rw [Option.map_some]
    dsimp only
    rw [hits]
    rfl

/-! ### The arrangement -/

theorem arranged?_eq (distinct : (records.map Record.id).Nodup) (params : ListParams) :
    params.arranged? records =
      let filtered := FilterSet.apply params.filters records
      SortSpec.sort? (scoresOf params filtered) params.sort (params.kept records) := by
  have ids : ((FilterSet.apply params.filters records).map Record.id).Nodup :=
    distinct.sublist (List.filter_sublist.map Record.id)
  rw [ListParams.arranged?, execute?, finish?_eq ids, Option.map_map]
  exact Option.map_id'

/-- The answer to a list request is made of the page of the arrangement, if there is one. -/
theorem execute?_eq (distinct : (records.map Record.id).Nodup) (params : ListParams) :
    execute? records params = (params.arranged? records).map params.answer := by
  have ids : ((FilterSet.apply params.filters records).map Record.id).Nodup :=
    distinct.sublist (List.filter_sublist.map Record.id)
  rw [arranged?_eq distinct, execute?, finish?_eq ids]
  rfl

end ListResult

namespace ListParams

variable {records : List Record}

theorem kept_sublist (params : ListParams) (records : List Record) :
    (params.kept records).Sublist records :=
  List.filter_sublist.trans List.filter_sublist

/-- Among the records of a list a key has the value that sorting takes. -/
theorem keyValue?_kept (distinct : (records.map Record.id).Nodup) (params : ListParams) :
    ∀ key ∈ params.sort, ∀ record ∈ params.kept records,
      SortSpec.keyValue?
        (ListResult.scoresOf params (FilterSet.apply params.filters records)) key record =
          params.keyValue? key record := by
  intro key _ record mem
  have filtered : (FilterSet.apply params.filters records).Sublist records := List.filter_sublist
  exact ListResult.keyValue?_scoresOf (distinct.sublist (filtered.map Record.id))
    (List.mem_filter.1 mem).1 key

/-- The arrangement has the records of the list, each as often as it is there. -/
theorem arranged?_perm (distinct : (records.map Record.id).Nodup) {params : ListParams}
    {arrangement : List Record} (arranged : params.arranged? records = some arrangement) :
    arrangement.Perm (params.kept records) := by
  rw [ListResult.arranged?_eq distinct] at arranged
  exact SortSpec.sort?_perm arranged

/-- There is an arrangement if the records of the list are few, or if what precedes one of them also
precedes whatever that one precedes. -/
theorem isSome_arranged?_iff (distinct : (records.map Record.id).Nodup) (params : ListParams) :
    (params.arranged? records).isSome = true ↔
      (params.kept records).length ≤ SortSpec.insertionLimit ∨
        ∀ a ∈ params.kept records, ∀ b ∈ params.kept records, ∀ c ∈ params.kept records,
          SortSpec.Precedes params.keyValue? params.sort a b →
            SortSpec.Precedes params.keyValue? params.sort b c →
              SortSpec.Precedes params.keyValue? params.sort a c := by
  have ids := distinct.sublist ((params.kept_sublist records).map Record.id)
  rw [← SortSpec.orders_iff_precedes ids (params.keyValue?_kept distinct),
    ListResult.arranged?_eq distinct]
  exact Option.isSome_ite

/-- Where the values under each key are in order there is an arrangement, in which each record
precedes all that come after it. -/
theorem exists_arranged? (distinct : (records.map Record.id).Nodup) {params : ListParams}
    (ordered : ∀ key ∈ params.sort, SortSpec.Ordered {record | record ∈ records} key) :
    ∃ arrangement, params.arranged? records = some arrangement ∧
      arrangement.Perm (params.kept records) ∧
      arrangement.Pairwise (SortSpec.Precedes params.keyValue? params.sort) := by
  have kept := params.kept_sublist records
  have ids := distinct.sublist (kept.map Record.id)
  have ordered' : ∀ key ∈ params.sort, SortSpec.Ordered {record | record ∈ params.kept records} key :=
    fun key mem => (ordered key mem).mono fun record mem => kept.subset mem
  refine ⟨_, (ListResult.arranged?_eq distinct params).trans (SortSpec.sort?_of_ordered ordered'),
    SortSpec.sort_perm _ _ _, ?_⟩
  exact SortSpec.sort_pairwise ids ordered' (params.keyValue?_kept distinct)

/-- Without a search and a sort key the identifiers alone order the records. -/
theorem arranged?_eq_of_ascending (distinct : (records.map Record.id).Nodup) {params : ListParams}
    (inactive : params.activeSearch? = none) (unsorted : params.sort = []) {ordered : List Record}
    (perm : ordered.Perm (FilterSet.apply params.filters records))
    (ascending : ordered.Pairwise fun a b => Text.compare a.id b.id = .lt) :
    params.arranged? records = some ordered := by
  have kept : params.kept records = FilterSet.apply params.filters records := by
    rw [ListParams.kept, List.filter_eq_self]
    intro record _
    simp [ListParams.finds, inactive]
  have ordered : ∀ key ∈ params.sort, SortSpec.Ordered {record | record ∈ records} key := by
    rw [unsorted]
    exact fun _ => nofun
  obtain ⟨arrangement, arranged, perm', pairwise⟩ := exists_arranged? distinct ordered
  rw [kept] at perm'
  rw [unsorted] at pairwise
  rw [arranged,
    SortSpec.eq_of_precedes (perm'.trans perm.symm) pairwise (ascending.imp .identified)]

end ListParams

end RecordStore
