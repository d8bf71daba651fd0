import RecordStore.Filter.Wire
import RecordStore.List.Engine
import RecordStore.List.Query

/-!
# List requests and results as JSON

The serialized forms of list parameters, of their loosely typed form, and of list results.

* `ListParams.toJson`, `ListParams.ofJson?`, `ListParams.form`;
* `ListQuery.ofJson?`, `ListQuery.form`;
* `ListResult.toJson`, `ListResult.ofJson?`, and `ListResult.same` for comparing results.
-/

namespace RecordStore

namespace SortDirection

/-- The directions and their names. -/
def wireNames : List (String × SortDirection) := [("asc", .ascending), ("desc", .descending)]

/-- The name of a direction. -/
def wireName : SortDirection → String
  | .ascending => "asc"
  | .descending => "desc"

end SortDirection

namespace SortKey

/-- The serialized form of a sort key. -/
def toJson (key : SortKey) : Json :=
  .object [("field", .text key.field), ("direction", .text key.direction.wireName)]

/-- The names of the slots. -/
def slotNames : List String := ["field", "direction"]

/-- The sort key of a serialized form; without a direction it is ascending. -/
def ofJson? (value : Json) : Option SortKey :=
  match Json.slots? slotNames value with
  | some [field, direction] => do
    let field ← Json.required Json.text? field
    let direction ← Json.orElse SortDirection.ascending
      (Json.choice? Json.isNull SortDirection.wireNames) direction
    some ⟨field, direction⟩
  | _ => none

end SortKey

namespace SortSpec

/-- The serialized form of the keys of a sort. -/
def toJson (spec : SortSpec) : Json := .array (spec.map SortKey.toJson)

/-- The keys of a serialized form. -/
def ofJson? : Json → Option SortSpec := Json.list? SortKey.ofJson?

end SortSpec

namespace SearchSpec

/-- The serialized form of a search. -/
def toJson (spec : SearchSpec) : Json :=
  .object [("query", .text spec.query), ("fields", .array (spec.fields.map .text))]

/-- The names of the slots. -/
def slotNames : List String := ["query", "fields"]

/-- The search of a serialized form; without fields it has none. -/
def ofJson? (value : Json) : Option SearchSpec :=
  match Json.slots? slotNames value with
  | some [query, fields] => do
    let query ← Json.required Json.text? query
    let fields ← Json.orElse [] (Json.list? Json.text?) fields
    some ⟨query, fields⟩
  | _ => none

end SearchSpec

namespace PageRequest

/-- The serialized form of a page request. -/
def toJson (request : PageRequest) : Json :=
  .object [("limit", .ofInt request.limit.toInt), ("page", .ofInt request.page.toInt)]

/-- The names of the slots. -/
def slotNames : List String := ["limit", "page"]

/-- The page request of a serialized form; the first page and no limit are the defaults. -/
def ofJson? (value : Json) : Option PageRequest :=
  match Json.slots? slotNames value with
  | some [limit, page] => do
    let limit ← Json.orElse 0 Json.int32? limit
    let page ← Json.orElse 1 Json.int32? page
    some ⟨limit, page⟩
  | _ => none

end PageRequest

namespace ListParams

/-- The serialized form of list parameters. -/
def toJson (params : ListParams) : Json :=
  .object [
    ("filters", FilterSet.toJson params.filters), ("sort", SortSpec.toJson params.sort),
    ("search", (params.search.map SearchSpec.toJson).getD .null),
    ("pagination", params.page.toJson)]

/-- The list parameters of a serialized form, all of whose parts may be missing. -/
def ofJson? (value : Json) : Option ListParams :=
  match Json.slots? ["filters", "sort", "search", "pagination"] value with
  | some [filters, sort, search, page] => do
    let filters ← Json.orElse [] FilterSet.ofJson? filters
    let sort ← Json.orElse [] SortSpec.ofJson? sort
    let search ← Json.optional SearchSpec.ofJson? search
    let page ← Json.orElse PageRequest.unpaged PageRequest.ofJson? page
    some ⟨filters, sort, search, page⟩
  | _ => none

/-- The serialized form; filters are read as a whole. -/
def form : Json.Form ListParams where
  shape := .record [
    ("filters", .whole), ("sort", .list (.flat SortKey.slotNames)),
    ("search", .flat SearchSpec.slotNames), ("pagination", .flat PageRequest.slotNames)]
  read := ofJson?

end ListParams

namespace ListQuery

/-- The names of the slots. -/
def slotNames : List String := ["page", "limit", "filter", "filters", "sort", "q", "search_fields"]

/-- The loosely typed parameters of a serialized form; every part may be missing or `null`. -/
def ofJson? (value : Json) : Option ListQuery :=
  match Json.slots? slotNames value with
  | some [page, limit, filter, filters, sort, q, searchFields] => do
    let page ← Json.optional Json.int32? page
    let limit ← Json.optional Json.int32? limit
    let filter ← Json.optional Json.text? filter
    let filters ← Json.optional FilterSet.ofJson? filters
    let sort ← Json.optional Json.text? sort
    let q ← Json.optional Json.text? q
    let searchFields ← Json.optional Json.text? searchFields
    some { page, limit, filter, filters, sort, q, searchFields }
  | _ => none

/-- The serialized form. -/
def form : Json.Form ListQuery := ⟨.flat slotNames, ofJson?⟩

end ListQuery

namespace PageInfo

/-- The serialized form of page information. -/
def toJson (info : PageInfo) : Json :=
  .object [
    ("total_items", .ofNat info.totalItems),
    ("total_pages", (info.totalPages.map Json.ofNat).getD .null),
    ("current_page", (info.currentPage.map Json.ofNat).getD .null),
    ("has_next", .bool info.hasNext), ("has_prev", .bool info.hasPrev)]

/-- The page information of a serialized form. -/
def ofJson? (value : Json) : Option PageInfo :=
  match Json.slots? ["total_items", "total_pages", "current_page", "has_next", "has_prev"]
    value with
  | some [totalItems, totalPages, currentPage, hasNext, hasPrev] => do
    let totalItems ← Json.required Json.nat64? totalItems
    let totalPages ← Json.optional Json.nat64? totalPages
    let currentPage ← Json.optional Json.nat64? currentPage
    let hasNext ← Json.required Json.bool? hasNext
    let hasPrev ← Json.required Json.bool? hasPrev
    some ⟨totalItems, totalPages, currentPage, hasNext, hasPrev⟩
  | _ => none

end PageInfo

namespace SearchHit

/-- The serialized form of a search hit. -/
def toJson (hit : SearchHit) : Json :=
  .object [
    ("record_id", .text hit.recordId), ("score", .ofBinary64 hit.score),
    ("highlights", .array (hit.highlights.map .text))]

/-- The search hit of a serialized form. -/
def ofJson? (value : Json) : Option SearchHit :=
  match Json.slots? ["record_id", "score", "highlights"] value with
  | some [recordId, score, highlights] => do
    let recordId ← Json.required Json.text? recordId
    let score ← Json.required Json.binary64? score
    let highlights ← Json.required (Json.list? Json.text?) highlights
    some ⟨recordId, score, highlights⟩
  | _ => none

/-- Equality of search hits, the scores compared as numbers. -/
def same (a b : SearchHit) : Bool :=
  a.recordId == b.recordId && a.score.equals b.score && a.highlights == b.highlights

end SearchHit

namespace ListResult

/-- The serialized form of a list result. -/
def toJson (result : ListResult Record) : Json :=
  .object [
    ("records", .array (result.records.map Record.serialize)), ("total", .ofNat result.total),
    ("pagination", result.page.toJson),
    ("search_results", .array (result.hits.map SearchHit.toJson))]

/-- The list result of a serialized form. -/
def ofJson? (value : Json) : Option (ListResult Record) :=
  match Json.slots? ["records", "total", "pagination", "search_results"] value with
  | some [records, total, page, hits] => do
    let records ← Json.required (Json.list? Record.read?) records
    let total ← Json.required Json.nat64? total
    let page ← Json.required PageInfo.ofJson? page
    let hits ← Json.required (Json.list? SearchHit.ofJson?) hits
    some ⟨records, total, page, hits⟩
  | _ => none

/-- Equality of list results. -/
def same (a b : ListResult Record) : Bool :=
  a.records.length == b.records.length &&
    (a.records.zip b.records).all (fun p => p.1.same p.2) &&
    a.total == b.total && a.page == b.page &&
    a.hits.length == b.hits.length && (a.hits.zip b.hits).all (fun p => p.1.same p.2)

end ListResult

end RecordStore
