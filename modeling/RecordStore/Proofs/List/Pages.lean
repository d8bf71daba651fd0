import Mathlib.Data.List.Forall2
import Mathlib.Data.List.Nodup
import RecordStore.Proofs.List.Pipeline

/-!
# The pages of a list

Whatever page is asked for, the total counts the records that the filters let through and the search
finds. The unpaged list has exactly these records, a page is a window of it, and the pages from the
first to the last make it up again. Each record of a page has its own hit, in the same place. All
this is so as far as the records can be sorted: more than a few of them may have sort keys that are
in no order, and then there is no list.

* `PageRequest.paginate_of_paged` — a page is a window;
* `PageRequest.flatMap_pages` — the pages of a list make it up;
* `ListParams.mem_kept` — which records a list is made of;
* `ListResult.execute_pages` — where there is a list, and its totals, pages and hits.
-/

namespace RecordStore

/-! ### Windows -/

namespace PageRequest

variable {α : Type} {request : PageRequest}

theorem paginate_of_unpaged (h : request.limit.toInt ≤ 0) (items : List α) :
    (request.paginate items).1 = items := by
  have unpaged : request.isPaged = false := by simpa [isPaged] using h
  simp [paginate, unpaged]

/-- A page is the window between the ends of two pages. -/
theorem paginate_of_paged (h : 0 < request.limit.toInt) (items : List α) :
    (request.paginate items).1 =
      items.extract ((request.number - 1) * request.size) (request.number * request.size) := by
  have paged : request.isPaged = true := by simpa [isPaged] using h
  have width : request.number * request.size - (request.number - 1) * request.size =
      request.size := by
    have positive : 0 < request.number := by
      unfold number
      omega
    rw [← Nat.sub_mul, Nat.sub_sub_self positive, Nat.one_mul]
  simp [paginate, offset, paged, List.extract_eq_take_drop, width]

/-- The first windows of a width make up the beginning of a list. -/
theorem flatMap_windows (items : List α) (size count : Nat) :
    ((List.range count).flatMap fun i => items.extract (i * size) ((i + 1) * size)) =
      items.take (count * size) := by
  induction count with
  | zero => simp
  | succ count ih =>
    have width : (count + 1) * size - count * size = size := by
      rw [Nat.succ_mul, Nat.add_sub_cancel_left]
    rw [List.range_succ, List.flatMap_append, ih, List.flatMap_singleton,
      List.extract_eq_take_drop, width, Nat.succ_mul, List.take_add]

theorem le_ceilDiv_mul (n : Nat) {size : Nat} (h : 0 < size) : n ≤ ceilDiv n size * size := by
  have := Nat.lt_div_mul_add h (a := n + size - 1)
  unfold ceilDiv
  omega

theorem number_ofNat (limit : Int32) {page : Nat} (positive : 0 < page) (small : page < 2 ^ 31) :
    (PageRequest.mk limit (.ofNat page)).number = page := by
  simp only [number, Int32.toInt_ofNat_of_lt small]
  omega

/-- The pages from the first to the last make up a list, as far as they can be asked for. -/
theorem flatMap_pages {limit : Int32} (h : 0 < limit.toInt) (items : List α)
    (few : ceilDiv items.length limit.toInt.toNat < 2 ^ 31) :
    ((List.range (ceilDiv items.length limit.toInt.toNat)).flatMap fun i =>
        ((PageRequest.mk limit (.ofNat (i + 1))).paginate items).1) = items := by
  have size : 0 < limit.toInt.toNat := by omega
  have page {i : Nat} (hi : i ∈ List.range (ceilDiv items.length limit.toInt.toNat)) :
      ((PageRequest.mk limit (.ofNat (i + 1))).paginate items).1 =
        items.extract (i * limit.toInt.toNat) ((i + 1) * limit.toInt.toNat) := by
    have small : i + 1 < 2 ^ 31 := by
      have := List.mem_range.1 hi
      omega
    rw [paginate_of_paged h, number_ofNat limit i.succ_pos small]
    rfl
  calc (List.range (ceilDiv items.length limit.toInt.toNat)).flatMap
        (fun i => ((PageRequest.mk limit (.ofNat (i + 1))).paginate items).1)
      = (List.range (ceilDiv items.length limit.toInt.toNat)).flatMap
        (fun i => items.extract (i * limit.toInt.toNat) ((i + 1) * limit.toInt.toNat)) :=
        List.flatMap_congr fun i hi => page hi
    _ = items.take (ceilDiv items.length limit.toInt.toNat * limit.toInt.toNat) :=
        flatMap_windows items _ _
    _ = items := List.take_of_length_le (le_ceilDiv_mul _ size)

end PageRequest

/-! ### The records and the hits of a list -/

namespace ListParams

variable {params : ListParams} {records : List Record}

/-- The records of a list are those that every filter lets through and the search, if there is one,
finds. -/
theorem mem_kept {record : Record} :
    record ∈ params.kept records ↔
      record ∈ records ∧ (∀ filter ∈ params.filters, filter.matches record = true) ∧
        ∀ spec, params.activeSearch? = some spec →
          (Search.hit? (Text.trim spec.query) spec.fields record).isSome := by
  have found : params.finds record = true ↔ ∀ spec, params.activeSearch? = some spec →
      (Search.hit? (Text.trim spec.query) spec.fields record).isSome := by
    unfold finds hit?
    cases params.activeSearch? <;> simp
  rw [kept, List.mem_filter, FilterSet.apply, List.mem_filter, found, FilterSet.matches,
    List.all_eq_true, and_assoc]

/-- Each record that is kept by a search has a hit of its own. -/
theorem forall₂_hits {spec : SearchSpec} (active : params.activeSearch? = some spec)
    {page : List Record} (known : ∀ record ∈ page, record ∈ params.kept records) :
    List.Forall₂
      (fun record hit => hit.recordId = record.id ∧
        Search.hit? (Text.trim spec.query) spec.fields record = some hit ∧
        hit ∈ Search.hits (FilterSet.apply params.filters records) spec)
      page (page.filterMap params.hit?) := by
  have isActive : Search.isActive spec = true := (Option.filter_eq_some_iff.1 active).2
  induction page with
  | nil => exact .nil
  | cons record rest ih =>
    rw [List.forall_mem_cons] at known
    obtain ⟨hit, found⟩ := Option.isSome_iff_exists.1 ((mem_kept.1 known.1).2.2 spec active)
    have own : params.hit? record = some hit := by rw [hit?, active]; exact found
    rw [List.filterMap_cons_some own]
    refine .cons ⟨ListResult.recordId_of_hit? found, found, ?_⟩ (ih known.2)
    rw [Search.hits, if_pos isActive]
    exact List.mem_filterMap.2 ⟨record, (List.mem_filter.1 known.1).1, found⟩

theorem filterMap_hit?_of_inactive (inactive : params.activeSearch? = none) (page : List Record) :
    page.filterMap params.hit? = [] := by
  refine List.filterMap_eq_nil_iff.2 fun record _ => ?_
  rw [hit?, inactive]
  rfl

end ListParams

/-! ### Lists -/

namespace ListResult

variable {records : List Record}

/-- A list has all records that its filters let through and its search finds, provided that they can
be sorted: there are only a few of them, or what precedes a record also precedes whatever that one
precedes. Then the total is their number whatever page is asked for; without pages the list is an
arrangement of them, and a page is a window of that list. The pages from the first to the last make
it up, with no record lost or repeated. The hits of a page are those of its records, in their order,
and there are none without a search. -/
theorem execute_pages (distinct : (records.map Record.id).Nodup) (params : ListParams) :
    let listed? (request : PageRequest) := execute? records { params with page := request }
    let kept := params.kept records
    let sortable : Prop := kept.length ≤ SortSpec.insertionLimit ∨
      ∀ a ∈ kept, ∀ b ∈ kept, ∀ c ∈ kept,
        SortSpec.Precedes params.keyValue? params.sort a b →
          SortSpec.Precedes params.keyValue? params.sort b c →
            SortSpec.Precedes params.keyValue? params.sort a c
    (∀ record, record ∈ kept ↔
      record ∈ records ∧ (∀ filter ∈ params.filters, filter.matches record = true) ∧
        ∀ spec, params.activeSearch? = some spec →
          (Search.hit? (Text.trim spec.query) spec.fields record).isSome) ∧
    (∀ request, (listed? request).isSome = true ↔ sortable) ∧
    (sortable → ∃ listed : PageRequest → ListResult Record,
      (∀ request, listed? request = some (listed request)) ∧
      let whole := (listed .unpaged).records
      whole.Perm kept ∧ whole.Nodup ∧
      (∀ request : PageRequest,
        (listed request).total = kept.length ∧
        (request.limit.toInt ≤ 0 → (listed request).records = whole) ∧
        (0 < request.limit.toInt → (listed request).records =
          whole.extract ((request.number - 1) * request.size) (request.number * request.size)) ∧
        (∀ spec, params.activeSearch? = some spec →
          List.Forall₂
            (fun record hit => hit.recordId = record.id ∧
              Search.hit? (Text.trim spec.query) spec.fields record = some hit ∧
              hit ∈ Search.hits (FilterSet.apply params.filters records) spec)
            (listed request).records (listed request).hits) ∧
        (params.activeSearch? = none → (listed request).hits = [])) ∧
      ∀ (limit : Int32) (pages : Nat), 0 < limit.toInt →
        (listed ⟨limit, 1⟩).page.totalPages = some pages → pages < 2 ^ 31 →
          ((List.range pages).flatMap fun i => (listed ⟨limit, .ofNat (i + 1)⟩).records) =
            whole) := by
  intro listed? kept sortable
  -- every list is made of a page of the one arrangement
  have made (request : PageRequest) : listed? request =
      (params.arranged? records).map { params with page := request }.answer :=
    execute?_eq distinct { params with page := request }
  have exists_iff : (params.arranged? records).isSome = true ↔ sortable :=
    params.isSome_arranged?_iff distinct
  refine ⟨fun record => ListParams.mem_kept, fun request => ?_, fun can => ?_⟩
  · rw [made, Option.isSome_map, exists_iff]
  obtain ⟨arrangement, arranged⟩ := Option.isSome_iff_exists.1 (exists_iff.2 can)
  have perm : arrangement.Perm kept := ListParams.arranged?_perm distinct arranged
  have nodup : arrangement.Nodup :=
    perm.nodup_iff.2 ((List.Nodup.of_map Record.id distinct).sublist (params.kept_sublist records))
  refine ⟨fun request => { params with page := request }.answer arrangement, ?_, perm, nodup, ?_, ?_⟩
  · intro request
    rw [made, arranged]
    rfl
  · intro request
    refine ⟨perm.length_eq, fun unpaged => ?_, fun paged => ?_, fun spec active => ?_, ?_⟩
    · exact PageRequest.paginate_of_unpaged unpaged arrangement
    · exact PageRequest.paginate_of_paged paged arrangement
    · refine ListParams.forall₂_hits active fun record mem => perm.subset ?_
      exact (request.paginate_sublist arrangement).subset mem
    · exact fun inactive => ListParams.filterMap_hit?_of_inactive inactive _
  · intro limit pages positive asked few
    have counted : pages = ceilDiv arrangement.length limit.toInt.toNat := by
      have paged : (PageRequest.mk limit 1).isPaged = true := by
        simpa [PageRequest.isPaged] using positive
      simpa [ListParams.answer, PageRequest.paginate, PageInfo.of, paged, PageRequest.size]
        using asked.symm
    subst counted
    exact PageRequest.flatMap_pages positive arrangement few

/-- A record with a title and a year. -/
def tune (id title : String) (year : Int64) : Record :=
  ⟨id, .ofList [("title", .text title), ("year", .integer year)]⟩

/-- A table of tunes. -/
def tunes : List Record :=
  [tune "b" "Blue in Green" 1959, tune "a" "So What" 1959, tune "e" "Blue Moon" 1934,
    tune "d" "Blue Train" 1957, tune "c" "In a Blue Mood" 1954]

/-- A search among the tunes since 1950, the newest ones first. -/
def newest : ListParams where
  filters := [⟨"year", .numeric (.greaterOrEqual (.ofInt 1950))⟩]
  sort := [⟨"year", .descending⟩]
  search := some ⟨"blue", ["title"]⟩
  page := .unpaged

/-- The second of two pages has the one tune that is left, and its hit. -/
theorem execute_newest :
    (tunes.map Record.id).Nodup ∧ (newest.kept tunes).length ≤ SortSpec.insertionLimit ∧
      ∃ listed : PageRequest → ListResult Record,
        (∀ request, execute? tunes { newest with page := request } = some (listed request)) ∧
        (listed ⟨2, 2⟩).records = [tune "c" "In a Blue Mood" 1954] ∧
        (listed ⟨2, 2⟩).hits = [⟨"c", Grade.wordStart.score, ["Blue"]⟩] ∧
        ((List.range 2).flatMap fun i => (listed ⟨2, .ofNat (i + 1)⟩).records) =
          [tune "b" "Blue in Green" 1959, tune "d" "Blue Train" 1957,
            tune "c" "In a Blue Mood" 1954] := by
  have distinct : (tunes.map Record.id).Nodup := by decide
  have few : (newest.kept tunes).length ≤ SortSpec.insertionLimit := by decide +kernel
  obtain ⟨-, -, lists⟩ := execute_pages distinct newest
  obtain ⟨listed, found, -, -, -, pages⟩ := lists (.inl few)
  have answered (request : PageRequest) (result : ListResult Record)
      (h : execute? tunes { newest with page := request } = some result) :
      listed request = result := Option.some.inj ((found request).symm.trans h)
  have unpaged := answered .unpaged _ rfl
  have first := answered ⟨2, 1⟩ _ rfl
  have second := answered ⟨2, 2⟩ _ rfl
  refine ⟨distinct, few, listed, found, ?_, ?_, ?_⟩
  · rw [second]
    rfl
  · rw [second]
    rfl
  · rw [pages 2 2 (by decide) (by rw [first]; rfl) (by decide), unpaged]
    rfl

/-! ### A list without an answer -/

/-- A record whose sort key is one of three values that are in no order: an integer, the
floating-point number that it is rounded to, and the other integer that is rounded to it. -/
def crossing (id : String) : Nat → Record
  | 0 => ⟨id, .ofList [("v", .integer 9007199254740993)]⟩
  | 1 => ⟨id, .ofList [("v", .float (.ofInt 9007199254740992))]⟩
  | _ => ⟨id, .ofList [("v", .integer 9007199254740992)]⟩

/-- More than a few records that have these values by turns. -/
def crossings : List Record :=
  ["a", "c", "e", "g", "i", "k", "m", "o", "q", "s", "u", "b", "d", "f", "h", "j", "l", "n", "p",
    "r", "t"].mapIdx fun i id => crossing id (i % 3)

/-- They have no list in the order of these values, although nothing is wrong with the request. -/
theorem execute_crossings :
    let params : ListParams := ⟨[], [⟨"v", .ascending⟩], none, .unpaged⟩
    (crossings.map Record.id).Nodup ∧ params.validate = .ok () ∧
      (params.kept crossings).length = 21 ∧ execute? crossings params = none := by
  refine ⟨by decide, rfl, by decide +kernel, ?_⟩
  rw [← Option.isNone_iff_eq_none]
  decide +kernel

end ListResult

end RecordStore
