import RecordStore.List.Engine

/-!
# Lists by the backend

What a backend answers when it filters, orders and cuts a list by itself, which it does if
`ListParams.canPageNatively` holds: the records that match, by identifier, and of them the window of
the page.

* `ListResult.native` — the answer;
* `ListResult.counted` — the answer of a backend that learns the total from the rows.
-/

namespace RecordStore.ListResult

/-- The answer of a backend that orders and cuts by itself. -/
def native (records : List Record) (params : ListParams) : ListResult Record :=
  let kept := FilterSet.apply params.filters records
  let ordered := kept.mergeSort fun a b => Text.le a.id b.id
  let window :=
    if params.page.isPaged then (ordered.drop params.page.offset).take params.page.size
    else ordered
  ⟨window, kept.length, PageInfo.of params.page kept.length, []⟩

/-- The total that is told by the rows of the window, each of which has the number of all matching
rows with it. Only an empty window that is not the first one needs another count. -/
def countedTotal (records : List Record) (params : ListParams) : Nat :=
  match (native records params).records with
  | _ :: _ => (native records params).total
  | [] => if 0 < params.page.offset then (FilterSet.apply params.filters records).length else 0

/-- The answer of a backend that learns the total from the rows. -/
def counted (records : List Record) (params : ListParams) : ListResult Record :=
  let total := countedTotal records params
  ⟨(native records params).records, total, PageInfo.of params.page total, []⟩

end RecordStore.ListResult
