import RecordStore.Filter.Shorthand
import RecordStore.Json.Parser
import RecordStore.List.Params

/-!
# Loosely typed list parameters

The parameters of a list as they arrive at the boundary: texts and numbers, all of them optional.
`ListQuery.toParams` makes valid list parameters of them or says what is wrong.
-/

namespace RecordStore

/-- List parameters as they arrive. -/
structure ListQuery where
  page : Option Int32
  limit : Option Int32
  /-- Filters in the shorthand. -/
  filter : Option String
  /-- Filters in addition to the shorthand. -/
  filters : Option FilterSet
  /-- The sort expression. -/
  sort : Option String
  /-- The search query. -/
  q : Option String
  /-- The fields to search, between commas. -/
  searchFields : Option String

namespace ListQuery

/-- Nothing is asked for. -/
def empty : ListQuery := ⟨none, none, none, none, none, none, none⟩

/-- The filters of the shorthand text; a missing or blank one has none. -/
def shorthandFilters (query : ListQuery) : Except StoreError FilterSet :=
  match query.filter.map Text.trim with
  | none => .ok []
  | some raw =>
    if raw.isEmpty then .ok []
    else match Json.parse? raw with
      | none => .error (FilterFault.notJson.on "filter")
      | some value => Shorthand.parse value

/-- The names of the fields to search: between commas, trimmed, blank ones left out. -/
def searchFieldNames (query : ListQuery) : List String :=
  ((Text.splitCommas (query.searchFields.getD "")).map Text.trim).filter fun f => !f.isEmpty

/-- The list parameters, with `defaultLimit` if no limit is given. -/
def toParams (query : ListQuery) (defaultLimit : Int32) : Except StoreError ListParams := do
  let shorthand ← query.shorthandFilters
  let filters := FilterSet.union shorthand (query.filters.getD [])
  let sort ← (match query.sort with
    | none => .ok []
    | some expression => SortSpec.parse expression)
  let search := query.q.map fun text => SearchSpec.mk text query.searchFieldNames
  let params : ListParams :=
    ⟨filters, sort, search, ⟨query.limit.getD defaultLimit, query.page.getD 1⟩⟩
  params.validate
  .ok params

end ListQuery

end RecordStore
