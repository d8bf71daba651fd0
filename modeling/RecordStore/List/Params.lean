import RecordStore.Filter.Basic
import RecordStore.Page
import RecordStore.Search
import RecordStore.Sort

/-!
# List parameters

What a caller asks for when listing records: which ones, in which order, found by which search, and
which page of them.
-/

namespace RecordStore

/-- The parameters of a list. -/
structure ListParams where
  filters : FilterSet
  sort : SortSpec
  search : Option SearchSpec
  page : PageRequest
  deriving DecidableEq

namespace ListParams

/-- Everything, in the order of the identifiers. -/
def all : ListParams := ⟨[], [], none, .unpaged⟩

/-- The search, if there is one with a query. -/
def activeSearch? (params : ListParams) : Option SearchSpec := params.search.filter Search.isActive

/-- Whether a backend that evaluates numeric and Boolean filters exactly can order and cut the list
by itself: there is no search, no sort key and no text filter. Text filters are excluded because a
timestamp that was stored as text is a mere text to the backend. -/
def canPageNatively (params : ListParams) : Bool :=
  params.activeSearch?.isNone && params.sort.isEmpty &&
    params.filters.all fun filter => filter.kind != .text

/-- The parameters are valid if the filters, the page and the search are and every sort key has a
field name. -/
def validate (params : ListParams) : Except StoreError Unit := do
  FilterSet.validate params.filters
  params.page.validate
  if (params.activeSearch?.map fun s => s.fields.isEmpty) = some true then
    .error QueryFault.searchWithoutFields.error
  if params.sort.any fun key => Text.isBlankText key.field then
    .error QueryFault.emptySortField.error

end ListParams

end RecordStore
