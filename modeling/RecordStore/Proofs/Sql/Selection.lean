import RecordStore.Proofs.Filter
import RecordStore.Proofs.Payload
import RecordStore.Proofs.Sql.Predicate

/-!
# The rows that a list selects

A predicate is evaluated on the columns of a row, and a filter on the record that is read from these
columns. The guard of the type stands for the kind of the field value, and behind it the operators
of the database are those of the filters.

* `Filter.Pushed` — what the predicate of a filter says of a row and the record in it;
* `Filter.pushed_of_valid` — each valid filter, on the stored form of any record;
* `ListParams.selects_scope_iff` — a tenant, a table and all filters together.
-/

namespace RecordStore

variable {row : StoredRow} {filter : Filter}

/-! ### Predicates that select -/

namespace SqlPredicate

variable {guard value a : SqlPredicate}

theorem selects_of_truth {t : Truth} (h : a.truth row = .ok t) :
    a.selects row = true ↔ t = some true := by
  rw [selects_iff, h, Except.ok.injEq]

theorem selects_parenthesized : (parenthesized a).selects row = a.selects row := rfl

theorem selects_guarded :
    (guarded guard value).selects row = true ↔
      guard.selects row = true ∧ value.selects row = true := by
  rw [selects_iff, selects_iff, selects_iff]
  cases h : guard.truth row with
  | error e => rw [truth, h]; simp [bind, Except.bind]
  | ok x =>
    rw [truth_guarded h, Except.ok.injEq]
    by_cases holds : x = some true
    · simp [holds]
    · simp [holds]

theorem selects_typeIs {column : JsonColumn} {type : JsonType} :
    (typeIs column type).selects row = true ↔
      ∃ value, column.value? row = some value ∧ value.type = type := by
  rw [selects_of_truth rfl, Option.map_eq_some_iff]
  simp only [beq_iff_eq]

theorem selects_tenantIs {tenant : Tenant} :
    (tenantIs tenant.name).selects row = true ↔ row.tenant = tenant := by
  rw [selects_of_truth rfl, Option.some.injEq, beq_iff_eq]
  constructor
  · intro same
    exact congrArg Tenant.mk same
  · intro same
    rw [same]

theorem selects_tableIs {table : String} :
    (tableIs table).selects row = true ↔ row.table = table := by
  rw [selects_of_truth rfl, Option.some.injEq, beq_iff_eq]

/-- A list of filters is one conjunction after the other. -/
theorem selects_foldl_and (filters : FilterSet) (first : SqlPredicate) :
    (filters.foldl (fun predicate filter => and predicate filter.rowPredicate) first).selects row =
        true ↔
      first.selects row = true ∧ ∀ filter ∈ filters, filter.rowPredicate.selects row = true := by
  induction filters generalizing first with
  | nil => simp
  | cons filter rest ih => rw [List.foldl_cons, ih, selects_and, List.forall_mem_cons, and_assoc]

end SqlPredicate

/-! ### The predicate of a filter -/

theorem Json.type_eq_string_iff {v : Json} : v.type = .string ↔ ∃ s, v = .text s := by
  cases v <;> simp [type]

theorem Json.type_eq_number_iff {v : Json} : v.type = .number ↔ ∃ n, v = .number n := by
  cases v <;> simp [type]

theorem Json.type_eq_boolean_iff {v : Json} : v.type = .boolean ↔ ∃ b, v = .bool b := by
  cases v <;> simp [type]

/-- The value in the column of a field is the one that is read as the field. -/
theorem Record.fieldValue?_of_columns {members : List (String × Json)}
    (distinct : (Members.names members).Nodup) (data : row.data = .object members)
    (field : String) :
    (Record.ofFields row.id members).fieldValue? field =
      ((JsonColumn.ofField field).value? row).map FieldValue.ofJson := by
  rw [Record.fieldValue?_ofFields row.id distinct]
  by_cases h : field = "id"
  · rw [if_pos h, JsonColumn.ofField, if_pos h]
    rfl
  · rw [if_neg h, JsonColumn.ofField, if_neg h, JsonColumn.value?, data]
    rfl

/-- Behind a test of the type a predicate is evaluated only on values of one form, and selects those
of which it is true. -/
theorem SqlPredicate.selects_behind_typeIs {α : Type} {form : α → Json} {holds : α → Bool}
    {column : JsonColumn} {type : JsonType} {value : SqlPredicate}
    (typed : ∀ v : Json, v.type = type ↔ ∃ x, v = form x)
    (evaluated : ∀ x, column.value? row = some (form x) →
      value.truth row = .ok (some (holds x))) :
    (typeIs column type).selects row = true ∧ value.selects row = true ↔
      ∃ x, column.value? row = some (form x) ∧ holds x = true := by
  rw [selects_typeIs]
  constructor
  · rintro ⟨⟨v, found, isTyped⟩, selected⟩
    obtain ⟨x, rfl⟩ := (typed v).1 isTyped
    rw [selects_of_truth (evaluated x found), Option.some.injEq] at selected
    exact ⟨x, found, selected⟩
  · rintro ⟨x, found, isTrue⟩
    refine ⟨⟨form x, found, (typed _).2 ⟨x, rfl⟩⟩, ?_⟩
    rw [selects_of_truth (evaluated x found), isTrue]

/-- A value of one form in a column, and a value of the column that has the form. -/
theorem exists_form_iff {α : Type} {form : α → Json} {p : α → Prop} {stored : Option Json} :
    (∃ x, stored = some (form x) ∧ p x) ↔ ∃ v, stored = some v ∧ ∃ x, v = form x ∧ p x := by
  constructor
  · rintro ⟨x, found, holds⟩
    exact ⟨_, found, x, rfl, holds⟩
  · rintro ⟨_, found, x, rfl, holds⟩
    exact ⟨x, found, holds⟩

namespace Filter

variable {field operand : String} {record : Record}

/-- Whether a filter compares texts without regard to case. -/
def ignoresCase (filter : Filter) : Bool :=
  match filter.condition with
  | .text _ _ ignoreCase => ignoreCase
  | _ => false

/-- A text filter that ignores case asks only for a text. -/
theorem selects_ignoringCase_iff {operator : TextOperator} :
    (rowPredicate ⟨field, .text operator operand true⟩).selects row = true ↔
      ∃ s, (JsonColumn.ofField field).value? row = some (.text s) := by
  have form : rowPredicate ⟨field, .text operator operand true⟩ =
      .parenthesized (.typeIs (.ofField field) .string) := rfl
  rw [form, SqlPredicate.selects_parenthesized, SqlPredicate.selects_typeIs]
  constructor
  · rintro ⟨v, column, type⟩
    obtain ⟨s, rfl⟩ := Json.type_eq_string_iff.1 type
    exact ⟨s, column⟩
  · rintro ⟨s, column⟩
    exact ⟨_, column, rfl⟩

theorem selects_text_iff {operator : TextOperator} :
    (rowPredicate ⟨field, .text operator operand false⟩).selects row = true ↔
      ∃ s, (JsonColumn.ofField field).value? row = some (.text s) ∧
        operator.holds s operand = true := by
  have form : rowPredicate ⟨field, .text operator operand false⟩ =
      .parenthesized (.and (.typeIs (.ofField field) .string)
        (operator.rowPredicate (.unquoted (.ofField field)) operand)) := rfl
  rw [form, SqlPredicate.selects_parenthesized, SqlPredicate.selects_and]
  exact SqlPredicate.selects_behind_typeIs (fun _ => Json.type_eq_string_iff)
    fun _ column => operator.truth_rowPredicate operand column

theorem selects_numeric_iff {operator : NumericOperator}
    (finite : ∀ v ∈ operator.operands, v.isFinite = true) :
    (rowPredicate ⟨field, .numeric operator⟩).selects row = true ↔
      ∃ n, (JsonColumn.ofField field).value? row = some (.number n) ∧
        operator.holds (FieldValue.binary64Of n) = true := by
  have form : rowPredicate ⟨field, .numeric operator⟩ =
      .guarded (.typeIs (.ofField field) .number) (operator.rowPredicate (.ofField field)) := rfl
  rw [form, SqlPredicate.selects_guarded]
  exact SqlPredicate.selects_behind_typeIs (fun _ => Json.type_eq_number_iff)
    fun _ column => NumericOperator.truth_rowPredicate finite column

theorem truth_booleanIs {column : JsonColumn} {operand b : Bool}
    (h : column.value? row = some (.bool b)) :
    (SqlPredicate.booleanIs column operand).truth row = .ok (some (b == operand)) := by
  rw [SqlPredicate.truth, h]
  rfl

theorem selects_boolean_iff {operand : Bool} :
    (rowPredicate ⟨field, .boolean operand⟩).selects row = true ↔
      ∃ b, (JsonColumn.ofField field).value? row = some (.bool b) ∧ (b == operand) = true := by
  have form : rowPredicate ⟨field, .boolean operand⟩ =
      .guarded (.typeIs (.ofField field) .boolean) (.booleanIs (.ofField field) operand) := rfl
  rw [form, SqlPredicate.selects_guarded]
  exact SqlPredicate.selects_behind_typeIs (fun _ => Json.type_eq_boolean_iff)
    fun _ column => truth_booleanIs column

/-! ### Filters on stored records -/

/-- Behind a guard that excludes other types no cast fails. -/
theorem exists_truth_guarded {column : JsonColumn} {type : JsonType} {value : SqlPredicate}
    (castable : ∀ v, column.value? row = some v → v.type = type →
      ∃ truth, value.truth row = .ok truth) :
    ∃ truth, (SqlPredicate.guarded (.typeIs column type) value).truth row = .ok truth := by
  rw [SqlPredicate.truth_guarded rfl]
  split
  · next h =>
    obtain ⟨v, column, same⟩ := Option.map_eq_some_iff.1 h
    exact castable v column (beq_iff_eq.1 same)
  · exact ⟨_, rfl⟩

/-- The predicate of a valid filter is evaluated on every row without a failure. -/
theorem exists_truth (valid : filter.validate = .ok ()) :
    ∃ truth, filter.rowPredicate.truth row = .ok truth := by
  have finite := @isFinite_of_valid filter
  obtain ⟨field, condition⟩ := filter
  cases condition with
  | text operator operand ignoreCase =>
    obtain ⟨t, compared⟩ :=
      @TextOperator.exists_truth row operator (.unquoted (.ofField field)) operand
    cases ignoreCase with
    | true => exact ⟨_, rfl⟩
    | false => exact ⟨_, SqlPredicate.truth_and rfl compared⟩
  | numeric operator =>
    refine exists_truth_guarded fun v column type => ?_
    obtain ⟨n, rfl⟩ := Json.type_eq_number_iff.1 type
    exact ⟨_, NumericOperator.truth_rowPredicate (finite valid rfl) column⟩
  | boolean operand =>
    refine exists_truth_guarded fun v column type => ?_
    obtain ⟨b, rfl⟩ := Json.type_eq_boolean_iff.1 type
    exact ⟨_, truth_booleanIs column⟩

/-- A valid filter that does not ignore case selects the rows of the records that it matches. -/
theorem selects_iff_matches (valid : filter.validate = .ok ())
    (read : record.fieldValue? filter.field =
      ((JsonColumn.ofField filter.field).value? row).map FieldValue.ofJson)
    (heedsCase : filter.ignoresCase = false) :
    filter.rowPredicate.selects row = true ↔ filter.matches record = true := by
  have finite := @isFinite_of_valid filter
  rw [matches_iff_of_read read]
  obtain ⟨field, condition⟩ := filter
  cases condition with
  | text operator operand ignoreCase =>
    obtain rfl : ignoreCase = false := heedsCase
    rw [selects_text_iff, exists_form_iff]
    simp only [Condition.holds_text_ofJson_iff]
    rfl
  | numeric operator =>
    rw [selects_numeric_iff (finite valid rfl), exists_form_iff]
    simp only [Condition.holds_numeric_ofJson_iff]
  | boolean operand =>
    rw [selects_boolean_iff, exists_form_iff]
    simp only [Condition.holds_boolean_ofJson_iff, beq_iff_eq, exists_eq_right]

/-- A filter that ignores case selects the rows of the records with a text in the field. -/
theorem selects_iff_isText
    (read : record.fieldValue? filter.field =
      ((JsonColumn.ofField filter.field).value? row).map FieldValue.ofJson)
    (ignoresCase : filter.ignoresCase = true) :
    filter.rowPredicate.selects row = true ↔
      ∃ value s, record.fieldValue? filter.field = some value ∧ value.asText? = some s := by
  rw [read]
  obtain ⟨field, condition⟩ := filter
  cases condition with
  | text operator operand ignoreCase =>
    obtain rfl : ignoreCase = true := ignoresCase
    rw [selects_ignoringCase_iff]
    constructor
    · rintro ⟨s, column⟩
      exact ⟨.text s, s, by rw [column]; rfl, rfl⟩
    · rintro ⟨value, s, found, text⟩
      obtain ⟨v, column, rfl⟩ := Option.map_eq_some_iff.1 found
      exact ⟨s, FieldValue.asText?_ofJson_eq_some_iff.1 text ▸ column⟩
  | _ => cases ignoresCase

/-- A record that a filter with a text matches has a text in the field. -/
theorem isText_of_matches (ignoresCase : filter.ignoresCase = true)
    (fits : filter.matches record = true) :
    ∃ value s, record.fieldValue? filter.field = some value ∧ value.asText? = some s := by
  obtain ⟨value, found, holds⟩ := matches_iff.1 fits
  obtain ⟨field, condition⟩ := filter
  cases condition with
  | text operator operand ignoreCase =>
    obtain ⟨s, text, -⟩ := Condition.holds_text_iff.1 holds
    exact ⟨value, s, found, text⟩
  | _ => cases ignoresCase

/-- What the predicate of a filter says of a row, where `record` is read from the row: the
evaluation does not fail; it selects just what the filter matches, or, if the filter ignores case,
whatever has a text in the field; nothing that matches is lost in either case. -/
structure Pushed (filter : Filter) (row : StoredRow) (record : Record) : Prop where
  evaluates : ∃ truth, filter.rowPredicate.truth row = .ok truth
  exact : filter.ignoresCase = false →
    (filter.rowPredicate.selects row = true ↔ filter.matches record = true)
  textual : filter.ignoresCase = true →
    (filter.rowPredicate.selects row = true ↔
      ∃ value s, record.fieldValue? filter.field = some value ∧ value.asText? = some s)
  complete : filter.matches record = true → filter.rowPredicate.selects row = true

theorem pushed_of_valid (valid : filter.validate = .ok ())
    (read : record.fieldValue? filter.field =
      ((JsonColumn.ofField filter.field).value? row).map FieldValue.ofJson) :
    filter.Pushed row record where
  evaluates := exists_truth valid
  exact := selects_iff_matches valid read
  textual := selects_iff_isText read
  complete := by
    intro fits
    cases ignoresCase : filter.ignoresCase with
    | false => exact (selects_iff_matches valid read ignoresCase).2 fits
    | true => exact (selects_iff_isText read ignoresCase).2 (isText_of_matches ignoresCase fits)

end Filter

/-! ### Lists -/

namespace ListParams

variable {params : ListParams} {tenant : Tenant} {table : String}

theorem selects_scope_iff :
    (params.scope tenant table).selects row = true ↔
      (row.tenant = tenant ∧ row.table = table) ∧
        ∀ filter ∈ params.filters, filter.rowPredicate.selects row = true := by
  rw [scope, SqlPredicate.selects_foldl_and, SqlPredicate.selects_and,
    SqlPredicate.selects_tenantIs, SqlPredicate.selects_tableIs]

/-- On a row with the stored form of any record, under any identifier, the predicate of a valid
filter is that of the filter on the record that is read back. The rows that are selected by a
tenant, a table and valid filters include each one of the tenant and the table whose record the
filters match, and there are no others unless a filter ignores case. -/
theorem selects_stored {stored : Record} (data : row.data = .object stored.payload) :
    ∃ record, Record.ofRow row.id row.data = .ok record ∧
      (∀ filter : Filter, filter.validate = .ok () → filter.Pushed row record) ∧
      ∀ params : ListParams, FilterSet.validate params.filters = .ok () →
        ∀ (tenant : Tenant) (table : String),
          ((row.tenant = tenant ∧ row.table = table) ∧
              FilterSet.matches params.filters record = true →
            (params.scope tenant table).selects row = true) ∧
          ((∀ filter ∈ params.filters, filter.ignoresCase = false) →
            ((params.scope tenant table).selects row = true ↔
              (row.tenant = tenant ∧ row.table = table) ∧
                FilterSet.matches params.filters record = true)) := by
  have pushed {filter : Filter} (valid : filter.validate = .ok ()) :
      filter.Pushed row (.ofFields row.id stored.payload) :=
    Filter.pushed_of_valid valid
      (Record.fieldValue?_of_columns stored.names_payload_nodup data filter.field)
  refine ⟨.ofFields row.id stored.payload, ?_, fun filter => pushed, ?_⟩
  · rw [data, Record.ofRow_object]
  intro params valid tenant table
  rw [FilterSet.validate_eq_ok_iff] at valid
  rw [selects_scope_iff, FilterSet.matches, List.all_eq_true]
  constructor
  · rintro ⟨here, fits⟩
    exact ⟨here, fun filter mem => (pushed (valid filter mem)).complete (fits filter mem)⟩
  · intro heedsCase
    have exact (filter : Filter) (mem : filter ∈ params.filters) :=
      (pushed (valid filter mem)).exact (heedsCase filter mem)
    constructor
    · rintro ⟨here, selected⟩
      exact ⟨here, fun filter mem => (exact filter mem).1 (selected filter mem)⟩
    · rintro ⟨here, fits⟩
      exact ⟨here, fun filter mem => (exact filter mem).2 (fits filter mem)⟩

/-- A record with a title, a number of pages and nothing in its other field. -/
def catalogued : Record :=
  ⟨"a", .ofList [("title", .text "Straße"), ("pages", .integer 120), ("loan", .null)]⟩

/-- A row of the record among those of a library. -/
def catalogRow : StoredRow := ⟨⟨"city"⟩, "books", "b7", .object catalogued.payload⟩

/-- Filters by the end of the title, by the pages and by the identifier. -/
def catalogFilters : FilterSet :=
  [⟨"title", .text .endsWith "aße" false⟩, ⟨"pages", .numeric (.between (.ofInt 100) (.ofInt 120))⟩,
    ⟨"id", .text .startsWith "b" false⟩]

theorem selects_catalogRow :
    ∃ record, Record.ofRow catalogRow.id catalogRow.data = .ok record ∧
      (∀ filter ∈ catalogFilters, filter.validate = .ok () ∧ filter.Pushed catalogRow record) ∧
      FilterSet.matches catalogFilters record = true ∧
      (scope ⟨catalogFilters, [], none, .unpaged⟩ ⟨"city"⟩ "books").selects catalogRow = true := by
  obtain ⟨record, read, pushed, lists⟩ := @selects_stored catalogRow catalogued rfl
  have valid : FilterSet.validate catalogFilters = .ok () := by rfl
  obtain ⟨complete, -⟩ := lists ⟨catalogFilters, [], none, .unpaged⟩ valid ⟨"city"⟩ "books"
  have same : record = .ofFields "b7" catalogued.payload := (Except.ok.inj read).symm
  have fits : FilterSet.matches catalogFilters record = true := by
    rw [same]
    decide +kernel
  refine ⟨record, read, fun filter mem => ?_, fits, complete ⟨⟨rfl, rfl⟩, fits⟩⟩
  have sound := FilterSet.validate_eq_ok_iff.1 valid filter mem
  exact ⟨sound, pushed filter sound⟩

end ListParams

end RecordStore
