import RecordStore.List.Query
import RecordStore.Proofs.Filter.Shorthand
import RecordStore.Proofs.Sort.Expression
import RecordStore.Store.Query

/-!
# From loosely typed to valid list parameters

A query is read if each of its parts is valid by a rule of its own: the shorthand if it is the text
of an object that denotes filters, the sort expression if its entries denote keys, the search if
there are fields to search, unless nothing is searched for. What is missing or blank has a default,
and nothing that is read is refused later.

* `ListParams.validate_eq_ok_iff` — valid list parameters;
* `ListQuery.FiltersDenoted`, `ListQuery.KeysDenoted` — what the texts of a query denote;
* `ListQuery.IsValid`, `ListQuery.IsReadAs` — the queries that are read, and as what;
* `ListQuery.toParams_reads_query` — reading a query.
-/

namespace RecordStore

/-! ### Valid list parameters -/

namespace PageRequest

variable {request : PageRequest}

theorem validate_eq_ok_iff :
    request.validate = .ok () ↔ 0 ≤ request.limit.toInt ∧ 1 ≤ request.page.toInt := by
  rw [validate]
  split
  · next negative => exact ⟨nofun, fun valid => by omega⟩
  · split
    · next below => exact ⟨nofun, fun valid => by omega⟩
    · exact ⟨fun _ => by omega, fun _ => rfl⟩

theorem failsOnlyWith_validate (request : PageRequest) :
    FailsOnlyWith StoreError.IsInvalidQuery request.validate := by
  rw [validate]
  split
  · exact .of_error (QueryFault.isInvalidQuery_error _)
  · split
    · exact .of_error (QueryFault.isInvalidQuery_error _)
    · exact .of_ok _

end PageRequest

namespace ListParams

variable {params : ListParams}

/-- The checks of a search and of the sort keys, one after the other. -/
theorem validate_eq (params : ListParams) :
    params.validate = (do
      FilterSet.validate params.filters
      params.page.validate
      if (params.activeSearch?.map fun s => s.fields.isEmpty) = some true then
        .error QueryFault.searchWithoutFields.error
      else if params.sort.any fun key => Text.isBlankText key.field then
        .error QueryFault.emptySortField.error
      else .ok ()) := rfl

theorem validate_eq_ok_iff :
    params.validate = .ok () ↔ (∀ filter ∈ params.filters, filter.validate = .ok ()) ∧
      0 ≤ params.page.limit.toInt ∧ 1 ≤ params.page.page.toInt ∧
      (∀ spec, params.activeSearch? = some spec → spec.fields ≠ []) ∧
      ∀ key ∈ params.sort, Text.isBlankText key.field = false := by
  have searched : (params.activeSearch?.map fun s => s.fields.isEmpty) = some true ↔
      ¬ ∀ spec, params.activeSearch? = some spec → spec.fields ≠ [] := by
    cases params.activeSearch? <;> simp
  have keys : (params.sort.any fun key => Text.isBlankText key.field) = true ↔
      ¬ ∀ key ∈ params.sort, Text.isBlankText key.field = false := by
    simp
  rw [validate_eq, check_bind_eq_ok_iff, check_bind_eq_ok_iff, FilterSet.validate_eq_ok_iff,
    PageRequest.validate_eq_ok_iff]
  simp only [searched, keys]
  split
  · next none => exact ⟨nofun, fun valid => absurd valid.2.2.2.1 none⟩
  · next fields =>
    split
    · next blank => exact ⟨nofun, fun valid => absurd valid.2.2.2.2 blank⟩
    · next visible =>
      rw [Classical.not_not] at fields visible
      exact ⟨fun valid => ⟨valid.1, valid.2.1.1, valid.2.1.2, fields, visible⟩,
        fun valid => ⟨valid.1, ⟨valid.2.1, valid.2.2.1⟩, rfl⟩⟩

/-- Whether an error is one of invalid list parameters. -/
def IsFault (e : StoreError) : Prop := e.IsInvalidFilter ∨ e.IsInvalidQuery

theorem failsOnlyWith_validate (params : ListParams) : FailsOnlyWith IsFault params.validate := by
  rw [validate_eq]
  refine ((FilterSet.failsOnlyWith_validate _).mono fun _ => .inl).bind fun _ =>
    (params.page.failsOnlyWith_validate.mono fun _ => .inr).bind fun _ => ?_
  split
  · exact .of_error (.inr (QueryFault.isInvalidQuery_error _))
  · split
    · exact .of_error (.inr (QueryFault.isInvalidQuery_error _))
    · exact .of_ok _

end ListParams

/-! ### The texts of a query -/

namespace ListQuery

/-- The filters that a shorthand text denotes: none if it is missing or blank. -/
inductive FiltersDenoted : Option String → FilterSet → Prop
  | missing : FiltersDenoted none []
  | blank {text : String} (blank : Text.isBlankText text = true) : FiltersDenoted (some text) []
  | object {text : String} {members : List (String × Json)} {filters : FilterSet}
      (visible : Text.isBlankText text = false)
      (read : Json.parse? (Text.trim text) = some (.object members))
      (denoted : List.Forall₂ Shorthand.Denotes members filters) :
      FiltersDenoted (some text) filters

/-- The sort keys that an expression denotes: none if it is missing. -/
inductive KeysDenoted : Option String → SortSpec → Prop
  | missing : KeysDenoted none []
  | entries {expression : String} {keys : SortSpec}
      (denoted : List.Forall₂ SortSpec.EntryDenotes (Text.listed expression) keys) :
      KeysDenoted (some expression) keys

variable {query : ListQuery} {defaultLimit : Int32} {params : ListParams} {shorthand : FilterSet}
  {keys : SortSpec}

/-- The shorthand of a text that is there. -/
theorem shorthandFilters_of_some {text : String} (present : query.filter = some text) :
    query.shorthandFilters =
      if Text.isBlankText text then .ok []
      else match Json.parse? (Text.trim text) with
        | none => .error (FilterFault.notJson.on "filter")
        | some value => Shorthand.parse value := by
  rw [shorthandFilters, present]
  exact if_congr (by rw [String.isEmpty_iff, Text.isBlankText_iff]) rfl rfl

theorem shorthandFilters_eq_ok_iff :
    query.shorthandFilters = .ok shorthand ↔ FiltersDenoted query.filter shorthand := by
  cases present : query.filter with
  | none =>
    rw [shorthandFilters, present]
    constructor
    · rintro ⟨⟩
      exact .missing
    · rintro ⟨⟩
      rfl
  | some text =>
    rw [shorthandFilters_of_some present]
    constructor
    · intro read
      split at read
      · next blank =>
        cases read
        exact .blank blank
      · next visible =>
        split at read
        · cases read
        · next value parsed =>
          obtain ⟨members, rfl, denoted⟩ := Shorthand.parse_eq_ok_iff.1 read
          exact .object ((Bool.not_eq_true _).mp visible) parsed denoted
    · rintro (_ | blank | ⟨visible, parsed, denoted⟩)
      · rw [if_pos blank]
      · rw [if_neg (by rw [visible]; exact Bool.false_ne_true), parsed]
        exact Shorthand.parse_eq_ok_iff.2 ⟨_, rfl, denoted⟩

theorem failsOnlyWith_shorthandFilters (query : ListQuery) :
    FailsOnlyWith StoreError.IsInvalidFilter query.shorthandFilters := by
  cases present : query.filter with
  | none =>
    rw [shorthandFilters, present]
    exact .of_ok _
  | some text =>
    rw [shorthandFilters_of_some present]
    split
    · exact .of_ok _
    · split
      · exact .of_error (FilterFault.isInvalidFilter_on _ _)
      · exact Shorthand.failsOnlyWith_parse _

/-- The filters of a shorthand are valid. -/
theorem FiltersDenoted.validate {text : Option String} (denoted : FiltersDenoted text shorthand) :
    ∀ filter ∈ shorthand, filter.validate = .ok () := by
  cases denoted with
  | missing => exact nofun
  | blank => exact nofun
  | object visible parsed denoted => exact Shorthand.validate_of_forall₂ denoted

theorem KeysDenoted.isBlankText {expression : Option String}
    (denoted : KeysDenoted expression keys) :
    ∀ key ∈ keys, Text.isBlankText key.field = false := by
  cases denoted with
  | missing => exact nofun
  | entries denoted => exact SortSpec.isBlankText_of_denoted denoted

/-! ### Queries -/

/-- Whether every part of a query is valid. -/
structure IsValid (query : ListQuery) (defaultLimit : Int32) : Prop where
  shorthand : ∃ filters, FiltersDenoted query.filter filters
  explicit : ∀ filter ∈ query.filters.getD [], filter.validate = .ok ()
  sort : ∃ keys, KeysDenoted query.sort keys
  page : 1 ≤ (query.page.getD 1).toInt
  limit : 0 ≤ (query.limit.getD defaultLimit).toInt
  /-- Something is only searched for in at least one field. -/
  fields : ∀ text, query.q = some text → Text.isBlankText text = false →
    Text.listed (query.searchFields.getD "") ≠ []

/-- What the parts of a query become, the filters of the shorthand being given. -/
structure IsReadAs (query : ListQuery) (defaultLimit : Int32) (shorthand : FilterSet)
    (params : ListParams) : Prop where
  denoted : FiltersDenoted query.filter shorthand
  filters : params.filters = shorthand ++ query.filters.getD []
  sort : KeysDenoted query.sort params.sort
  search : params.search =
    query.q.map fun text => ⟨text, Text.listed (query.searchFields.getD "")⟩
  page : params.page = ⟨query.limit.getD defaultLimit, query.page.getD 1⟩

theorem sort_eq_ok_iff :
    (match query.sort with
      | none => .ok []
      | some expression => SortSpec.parse expression : Except StoreError SortSpec) = .ok keys ↔
      KeysDenoted query.sort keys := by
  cases query.sort with
  | none =>
    constructor
    · rintro ⟨⟩
      exact .missing
    · rintro ⟨⟩
      rfl
  | some expression =>
    dsimp only
    rw [SortSpec.parse_eq_ok_iff]
    constructor
    · exact .entries
    · rintro ⟨⟩
      assumption

theorem toParams_eq_ok_iff :
    query.toParams defaultLimit = .ok params ↔
      (∃ shorthand, query.IsReadAs defaultLimit shorthand params) ∧ params.validate = .ok () := by
  rw [toParams, bind_eq_ok_iff]
  constructor
  · rintro ⟨shorthand, denoted, rest⟩
    obtain ⟨keys, sorted, rest⟩ := bind_eq_ok_iff.1 rest
    obtain ⟨_, valid, same⟩ := bind_eq_ok_iff.1 rest
    cases same
    have parts := shorthandFilters_eq_ok_iff.1 denoted
    exact ⟨⟨shorthand, parts, rfl, sort_eq_ok_iff.1 sorted, rfl, rfl⟩, valid⟩
  · rintro ⟨⟨shorthand, denoted, filters, sorted, search, page⟩, valid⟩
    obtain ⟨_, _, _, _⟩ := params
    dsimp only at filters search page
    subst filters search page
    refine ⟨shorthand, shorthandFilters_eq_ok_iff.2 denoted, ?_⟩
    refine bind_eq_ok_iff.2 ⟨_, sort_eq_ok_iff.2 sorted, ?_⟩
    exact bind_eq_ok_iff.2 ⟨(), valid, rfl⟩

/-- What the texts denote is valid, and so only the other parts have to be checked. -/
theorem IsReadAs.validate_iff (read : query.IsReadAs defaultLimit shorthand params) :
    params.validate = .ok () ↔ query.IsValid defaultLimit := by
  have searched : (∀ spec, params.activeSearch? = some spec → spec.fields ≠ []) ↔
      ∀ text, query.q = some text → Text.isBlankText text = false →
        Text.listed (query.searchFields.getD "") ≠ [] := by
    rw [ListParams.activeSearch?, read.search]
    cases query.q <;> simp [Search.isActive, Option.filter]
  rw [ListParams.validate_eq_ok_iff, searched, read.filters, read.page]
  constructor
  · rintro ⟨filters, limit, page, fields, -⟩
    exact ⟨⟨_, read.denoted⟩, fun filter mem => filters filter (List.mem_append_right _ mem),
      ⟨_, read.sort⟩, page, limit, fields⟩
  · rintro ⟨-, explicit, -, page, limit, fields⟩
    exact ⟨List.forall_mem_append.2 ⟨read.denoted.validate, explicit⟩, limit, page, fields,
      read.sort.isBlankText⟩

theorem failsOnlyWith_toParams (query : ListQuery) (defaultLimit : Int32) :
    FailsOnlyWith ListParams.IsFault (query.toParams defaultLimit) := by
  refine ((failsOnlyWith_shorthandFilters query).mono fun _ => .inl).bind fun shorthand => ?_
  refine FailsOnlyWith.bind ?_ fun keys =>
    (ListParams.failsOnlyWith_validate _).bind fun _ => .of_ok _
  cases query.sort with
  | none => exact .of_ok _
  | some expression => exact (SortSpec.failsOnlyWith_parse expression).mono fun _ => .inr

/-- **Reading a query.** Just the queries whose parts are all valid are read, and the others are
refused as an invalid filter or an invalid query. What is read is valid, so that no list refuses it.
It has the filters of the shorthand and behind them the explicit ones, and matches the records that
both of them match, the keys of the sort expression, a search if there is one in the query, and the
page and the limit that are given, or else the first page and the default limit. -/
theorem toParams_reads_query (query : ListQuery) (defaultLimit : Int32) :
    ((∃ params, query.toParams defaultLimit = .ok params) ↔ query.IsValid defaultLimit) ∧
    (∀ e, query.toParams defaultLimit = .error e →
      (∃ field message, e = .invalidFilter field message) ∨ ∃ message, e = .invalidQuery message) ∧
    ∀ params, query.toParams defaultLimit = .ok params →
      params.validate = .ok () ∧
      (∀ (store : Store) (place : Place) (arrangement : Arrangement),
        store.list place arrangement params =
          .ok (ListResult.execute? (store.snapshot place arrangement) params)) ∧
      ∃ shorthand, query.IsReadAs defaultLimit shorthand params ∧
        ∀ record, FilterSet.matches params.filters record = true ↔
          FilterSet.matches shorthand record = true ∧
            FilterSet.matches (query.filters.getD []) record = true := by
  refine ⟨⟨?_, ?_⟩, failsOnlyWith_toParams query defaultLimit, fun params read => ?_⟩
  · rintro ⟨params, read⟩
    obtain ⟨⟨shorthand, parts⟩, valid⟩ := toParams_eq_ok_iff.1 read
    exact parts.validate_iff.1 valid
  · intro valid
    obtain ⟨shorthand, denoted⟩ := valid.shorthand
    obtain ⟨keys, sorted⟩ := valid.sort
    have parts : query.IsReadAs defaultLimit shorthand
        ⟨shorthand ++ query.filters.getD [], keys, _, _⟩ := ⟨denoted, rfl, sorted, rfl, rfl⟩
    exact ⟨_, toParams_eq_ok_iff.2 ⟨⟨shorthand, parts⟩, parts.validate_iff.2 valid⟩⟩
  · obtain ⟨⟨shorthand, parts⟩, valid⟩ := toParams_eq_ok_iff.1 read
    refine ⟨valid, fun store place arrangement => ?_, shorthand, parts, fun record => ?_⟩
    · rw [Store.list, valid]
      rfl
    · rw [parts.filters, FilterSet.matches, List.all_append, Bool.and_eq_true]
      rfl

/-- A query with all its parts but a limit. -/
def blueTunes : ListQuery where
  page := some 2
  limit := none
  filter := some " \x7b\"year>=\": 1960\x7d "
  filters := some [⟨"artist", .text .contains "mil" true⟩]
  sort := some "title : DESC, ,year"
  q := some "blue"
  searchFields := some " title,, artist "

theorem blueTunes_is_read : ∃ params, blueTunes.toParams 20 = .ok params ∧
    params.validate = .ok () ∧ params.sort = [⟨"title", .descending⟩, ⟨"year", .ascending⟩] ∧
    params.search = some ⟨"blue", ["title", "artist"]⟩ ∧ params.page = ⟨20, 2⟩ := by
  have outcome : (blueTunes.toParams 20).toOption = some
      ⟨[⟨"year", .numeric (.greaterOrEqual (.ofInt 1960))⟩,
        ⟨"artist", .text .contains "mil" true⟩],
        [⟨"title", .descending⟩, ⟨"year", .ascending⟩], some ⟨"blue", ["title", "artist"]⟩,
        ⟨20, 2⟩⟩ := by decide +kernel
  cases read : blueTunes.toParams 20 with
  | error e =>
    rw [read] at outcome
    cases outcome
  | ok params =>
    rw [read] at outcome
    cases outcome
    exact ⟨_, rfl, ((toParams_reads_query blueTunes 20).2.2 _ read).1, rfl, rfl, rfl⟩

end ListQuery

end RecordStore
