import RecordStore.List.Params

/-!
# Listing records

The list pipeline over a snapshot of records: filter, search, sort, cut out a page. Every provider
ends here, either with all its records or with candidates that its backend has filtered already.

* `ListResult.execute?` — the whole pipeline, without an answer where sorting has no result;
* `ListResult.finish?` — the pipeline after the filters;
* `ListResult.mapM` — converting the records of a result.
-/

namespace RecordStore

/-- The answer to a list request. -/
structure ListResult (α : Type) where
  records : List α
  total : Nat
  page : PageInfo
  hits : List SearchHit

namespace ListResult

/-- The answer without records. -/
def empty {α : Type} (request : PageRequest) : ListResult α :=
  ⟨[], 0, PageInfo.of request 0, []⟩

/-- The search hits by identifier; of a repeated identifier the last hit counts. -/
def hitsById (hits : List SearchHit) : List (String × SearchHit) :=
  Members.distinct (hits.map fun hit => (hit.recordId, hit))

/-- The hits of the given records in their order. Each hit is given out once. -/
def takeHits (hits : List (String × SearchHit)) : List Record → List SearchHit
  | [] => []
  | record :: rest =>
    match Members.get? record.id hits with
    | none => takeHits hits rest
    | some hit => hit :: takeHits (Members.erase record.id hits) rest

/-- Search, sort and cut out the page of records that match the filters. -/
def finish? (records : List Record) (params : ListParams) : Option (ListResult Record) :=
  let hits := match params.activeSearch? with
    | none => []
    | some spec => hitsById (Search.hits records spec)
  let found := match params.activeSearch? with
    | none => records
    | some _ => records.filter fun record => Members.contains record.id hits
  let scores := Members.mapValues SearchHit.score hits
  (SortSpec.sort? scores params.sort found).map fun sorted =>
    let (page, info) := params.page.paginate sorted
    ⟨page, sorted.length, info, takeHits hits page⟩

/-- The answer to a list request over all records of a table. -/
def execute? (records : List Record) (params : ListParams) : Option (ListResult Record) :=
  finish? (FilterSet.apply params.filters records) params

/-- Convert the records one after the other and keep everything else. -/
def mapM {m : Type → Type} [Monad m] {α β : Type} (f : α → m β) (result : ListResult α) :
    m (ListResult β) := do
  let records ← result.records.mapM f
  pure ⟨records, result.total, result.page, result.hits⟩

end ListResult

end RecordStore
