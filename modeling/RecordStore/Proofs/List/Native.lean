import RecordStore.List.Native
import RecordStore.Proofs.List.Pages
import RecordStore.Proofs.Text.Bytes

/-!
# Lists by the backend

A list that a backend may order and cut by itself is the one that the pipeline makes: with no search
and no sort key, the identifiers alone are left to order the records, and a page is a window of
them. The order of the identifiers is the one of their bytes, in which a database keeps them.

* `List.take_drop_eq_filterMap` — a window has the places that there are;
* `ListResult.native_eq` — ordering by identifiers gives the arrangement of the list;
* `ListResult.counted_eq` — the total is the same whether or not the window has rows;
* `ListResult.execute_native` — the list, the answer of the backend, and what both are.
-/

namespace RecordStore

/-! ### Windows -/

/-- A window of a list has the elements at the places that there are. -/
theorem take_drop_eq_filterMap {α : Type} (items : List α) (offset size : Nat) :
    (items.drop offset).take size = (List.range' offset size).filterMap (items[·]?) := by
  induction size generalizing offset with
  | zero => rfl
  | succ size ih =>
    rw [List.range'_succ]
    cases item : items[offset]? with
    | none =>
      have short := List.getElem?_eq_none_iff.1 item
      rw [List.filterMap_cons_none item, ← ih, List.drop_of_length_le short,
        List.drop_of_length_le (by omega), List.take_nil, List.take_nil]
    | some x =>
      obtain ⟨bound, rfl⟩ := List.getElem?_eq_some_iff.1 item
      rw [List.filterMap_cons_some item, ← ih, List.drop_eq_getElem_cons bound, List.take_succ_cons]

namespace PageRequest

variable {request : PageRequest}

theorem offset_of_paged (h : 0 < request.limit.toInt) :
    (request.offset : Int) = (max request.page.toInt 1 - 1) * request.limit.toInt := by
  have paged : request.isPaged = true := by simpa [isPaged] using h
  have before : ((request.number - 1 : Nat) : Int) = max request.page.toInt 1 - 1 := by
    unfold number
    omega
  have width : (request.size : Int) = request.limit.toInt := Int.toNat_of_nonneg (Int.le_of_lt h)
  rw [offset, if_pos paged, Int.natCast_mul, before, width]

/-- The number of items before a page is one of 63 bits. -/
theorem offset_lt (request : PageRequest) : request.offset < 2 ^ 63 := by
  by_cases h : 0 < request.limit.toInt
  · have page := request.page.toInt_lt
    have limit := request.limit.toInt_lt
    have bound : (max request.page.toInt 1 - 1) * request.limit.toInt ≤ 2 ^ 31 * 2 ^ 31 :=
      Int.mul_le_mul (by omega) (by omega) (Int.le_of_lt h) (by decide)
    rw [← offset_of_paged h] at bound
    omega
  · have unpaged : request.isPaged = false := by simpa [isPaged] using h
    rw [offset, unpaged, if_neg Bool.false_ne_true]
    decide

end PageRequest

/-! ### Ordering by identifiers -/

theorem ListParams.canPageNatively_iff {params : ListParams} :
    params.canPageNatively = true ↔
      params.activeSearch? = none ∧ params.sort = [] ∧
        ∀ filter ∈ params.filters, filter.kind ≠ .text := by
  simp [canPageNatively, and_assoc]

theorem Text.le_eq_isLE (s t : String) : Text.le s t = (Text.compare s t).isLE := by
  unfold Text.le
  cases Text.compare s t <;> rfl

/-- Records with identifiers of their own are in strictly ascending order after sorting them. -/
theorem pairwise_mergeSort_id {records : List Record}
    (distinct : (records.map Record.id).Nodup) :
    (records.mergeSort fun a b => Text.le a.id b.id).Pairwise
      fun a b => Text.compare a.id b.id = .lt := by
  have sorted : (records.mergeSort fun a b => Text.le a.id b.id).Pairwise
      fun a b => Text.le a.id b.id = true := by
    refine List.pairwise_mergeSort (fun a b c => ?_) (fun a b => ?_) records
    · simp only [Text.le_eq_isLE]
      exact Std.TransCmp.isLE_trans
    · simp only [Text.le_eq_isLE, Bool.or_eq_true]
      have turned : Text.compare b.id a.id = (Text.compare a.id b.id).swap := Std.OrientedCmp.eq_swap
      rw [turned]
      cases Text.compare a.id b.id <;> decide
  have perm := List.mergeSort_perm records fun a b => Text.le a.id b.id
  have apart : (records.mergeSort fun a b => Text.le a.id b.id).Pairwise
      fun a b => a.id ≠ b.id := by
    have := (perm.map Record.id).nodup_iff.2 distinct
    exact List.pairwise_map.1 this
  refine (sorted.and apart).imp ?_
  rintro a b ⟨le, ne⟩
  cases order : Text.compare a.id b.id with
  | lt => rfl
  | eq => exact absurd (Text.compare_eq_iff.1 order) ne
  | gt => simp [Text.le, order] at le

namespace ListResult

variable {records : List Record} {params : ListParams}

/-- Without a search and a sort key the arrangement of a list is the one by identifiers. -/
theorem arranged?_eq_mergeSort (distinct : (records.map Record.id).Nodup)
    (able : params.canPageNatively = true) :
    params.arranged? records =
      some ((FilterSet.apply params.filters records).mergeSort fun a b => Text.le a.id b.id) := by
  obtain ⟨search, sort, -⟩ := ListParams.canPageNatively_iff.1 able
  have ids : ((FilterSet.apply params.filters records).map Record.id).Nodup :=
    distinct.sublist (List.filter_sublist.map Record.id)
  exact ListParams.arranged?_eq_of_ascending distinct search sort (List.mergeSort_perm _ _)
    (pairwise_mergeSort_id ids)

/-- The backend makes the answer that the pipeline makes. -/
theorem execute?_eq_native (distinct : (records.map Record.id).Nodup)
    (able : params.canPageNatively = true) :
    execute? records params = some (native records params) := by
  have noHit : params.hit? = fun _ => none := by
    funext record
    rw [ListParams.hit?, (ListParams.canPageNatively_iff.1 able).1]
    rfl
  rw [execute?_eq distinct, arranged?_eq_mergeSort distinct able]
  cases paged : params.page.isPaged <;>
    simp [ListParams.answer, PageRequest.paginate, native, noHit, paged]

/-- A first window is empty only if there is nothing. -/
theorem length_of_records_native (none : (native records params).records = [])
    (first : params.page.offset = 0) :
    (FilterSet.apply params.filters records).length = 0 := by
  have ordered : (FilterSet.apply params.filters records).mergeSort
      (fun a b => Text.le a.id b.id) = [] := by
    cases paged : params.page.isPaged with
    | false => simpa [native, paged] using none
    | true =>
      have width : 0 < params.page.size := by
        have limit : 0 < params.page.limit.toInt := by simpa [PageRequest.isPaged] using paged
        unfold PageRequest.size
        omega
      simpa [native, paged, first, Nat.ne_of_gt width] using none
  rw [← List.length_mergeSort, ordered, List.length_nil]

/-- The total is the same whether or not the window has rows. -/
theorem countedTotal_eq (records : List Record) (params : ListParams) :
    countedTotal records params = (FilterSet.apply params.filters records).length := by
  unfold countedTotal
  split
  · rfl
  · next none =>
    split
    · rfl
    · exact (length_of_records_native none (by omega)).symm

theorem counted_eq (records : List Record) (params : ListParams) :
    counted records params = native records params := by
  rw [counted, countedTotal_eq]
  rfl

/-- **A list that a backend orders and cuts by itself.** Where it may do so, the list of the
pipeline has the records that the filters let through, in the strict order of the bytes of their
identifiers: all of them, or the ones at the places of the page that there are. It tells their
number and has no hits, and the backend answers the same, however it comes to the total. -/
theorem execute_native (distinct : (records.map Record.id).Nodup)
    (able : params.canPageNatively = true) :
    ∃ ordered : List Record,
      ordered.Perm (FilterSet.apply params.filters records) ∧
      ordered.Pairwise (fun a b => Text.compareBytes a.id b.id = .lt) ∧
      execute? records params = some
        ⟨if params.page.limit.toInt ≤ 0 then ordered
          else (List.range' params.page.offset params.page.limit.toInt.toNat).filterMap
            (ordered[·]?),
          (FilterSet.apply params.filters records).length,
          PageInfo.of params.page (FilterSet.apply params.filters records).length, []⟩ ∧
      (0 < params.page.limit.toInt →
        (params.page.offset : Int) =
          (max params.page.page.toInt 1 - 1) * params.page.limit.toInt) ∧
      params.page.offset < 2 ^ 63 ∧
      execute? records params = some (native records params) ∧
      execute? records params = some (counted records params) := by
  have ids : ((FilterSet.apply params.filters records).map Record.id).Nodup :=
    distinct.sublist (List.filter_sublist.map Record.id)
  have same := execute?_eq_native distinct able
  refine ⟨_, List.mergeSort_perm _ fun a b => Text.le a.id b.id, ?_, ?_,
    PageRequest.offset_of_paged, params.page.offset_lt, same, by rw [counted_eq, same]⟩
  · simpa only [Text.compareBytes_eq_compare] using pairwise_mergeSort_id ids
  · rw [same, native]
    by_cases paged : 0 < params.page.limit.toInt
    · rw [if_pos (by simpa [PageRequest.isPaged] using paged), if_neg (by omega),
        take_drop_eq_filterMap]
      rfl
    · rw [if_neg (by simpa [PageRequest.isPaged] using paged), if_pos (by omega)]

/-- A record with a size. -/
def sized (id : String) (size : Int64) : Record := ⟨id, .ofList [("size", .integer size)]⟩

/-- Records whose identifiers have codes of one to four bytes. -/
def letters : List Record := [sized "𝄞" 2, sized "豈" 3, sized "é" 4, sized "z" 5, sized "a" 1]

/-- The second page of two larger ones; the search is blank. -/
def secondPage : ListParams :=
  ⟨[⟨"size", .numeric (.greaterThan (.ofInt 1))⟩], [], some ⟨" ", ["size"]⟩, ⟨2, 2⟩⟩

theorem execute_secondPage :
    secondPage.canPageNatively = true ∧
      ((execute? letters secondPage).map fun listed => listed.records.map Record.id) =
        some ["豈", "𝄞"] ∧
      (execute? letters secondPage).map ListResult.total = some 4 ∧
      execute? letters secondPage = some (native letters secondPage) ∧
      execute? letters secondPage = some (counted letters secondPage) := by
  have able : secondPage.canPageNatively = true := by decide
  have distinct : (letters.map Record.id).Nodup := by decide
  obtain ⟨ordered, -, -, -, -, -, native, counted⟩ := execute_native distinct able
  exact ⟨able, by decide, by decide, native, counted⟩

end ListResult

end RecordStore
