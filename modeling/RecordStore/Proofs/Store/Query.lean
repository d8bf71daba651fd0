import RecordStore.Proofs.Field.Json
import RecordStore.Proofs.Filter.Shorthand
import RecordStore.Proofs.Json.Text
import RecordStore.Proofs.Payload
import RecordStore.Proofs.Transaction.Tables
import RecordStore.Store.Query

/-!
# Statements as filters

A statement that asks for texts and truth values selects the rows of a table that the list has for
the same object in the filter shorthand. The one looks at the written rows, the other at the fields:
there timestamps count as the texts that are written for them, and the identifier has a member of
its own, unless it is hidden by a field of the name that stands for it.

* `Store.list_eq` — the list of a table without a sort key, a search and a page;
* `Shorthand.entry_equality` — the filter of a member, which matches as the member does;
* `Store.query_eq_list` — the rows of a statement and the list of its filters;
* `Store.named_id_is_hidden` — where they part.
-/

namespace RecordStore

/-! ### Lists without keys -/

namespace Store

variable {store : Store}

/-- The list that only has filters is what they let through of the table, in its order. -/
theorem list_eq (identified : store.Has Key.Identifies) (place : Place) (arrangement : Arrangement)
    {filters : FilterSet} (valid : FilterSet.validate filters = .ok ()) :
    ∃ result, store.list place arrangement ⟨filters, [], none, .unpaged⟩ = .ok (some result) ∧
      result.records = FilterSet.apply filters (store.table place) := by
  have ascending := store.table_ascending identified place
  have distinct := store.ids_nodup identified place
  let params : ListParams := ⟨filters, [], none, .unpaged⟩
  have checked : params.validate = .ok () := by
    rw [ListParams.validate, valid]
    rfl
  have arranged : params.arranged? (store.table place) =
      some (FilterSet.apply filters (store.table place)) :=
    ListParams.arranged?_eq_of_ascending distinct rfl rfl (.refl _) (ascending.filter _)
  have unpaged : PageRequest.unpaged.limit.toInt ≤ 0 := by decide
  refine ⟨params.answer (FilterSet.apply filters (store.table place)), ?_,
    PageRequest.paginate_of_unpaged unpaged _⟩
  have unsorted : ∀ key ∈ params.sort, SortSpec.Ordered {record | record ∈ store.table place} key :=
    fun _ none => absurd none List.not_mem_nil
  rw [list_eq_of_ordered identified place arrangement unsorted, checked,
    ListResult.execute?_eq distinct, arranged]
  rfl

end Store

/-! ### Members and fields -/

theorem Json.same_text_iff {v : Json} {s : String} : v.same (.text s) = true ↔ v = .text s := by
  cases v <;> simp [same]

theorem Json.same_bool_iff {v : Json} {b : Bool} : v.same (.bool b) = true ↔ v = .bool b := by
  cases v <;> simp [same]

namespace Condition

variable {value : FieldValue}

theorem holds_text_eq (unwrapped : value.isWrapped = false) (s : String) :
    (Condition.text .equals s false).holds value = value.toJson.same (.text s) := by
  rw [Bool.eq_iff_iff, Json.same_text_iff, FieldValue.toJson_eq_text_iff unwrapped]
  cases text : value.asText? <;> simp [holds, text, TextOperator.holds]

theorem holds_boolean_eq (unwrapped : value.isWrapped = false) (b : Bool) :
    (Condition.boolean b).holds value = value.toJson.same (.bool b) := by
  rw [Bool.eq_iff_iff, Json.same_bool_iff, FieldValue.toJson_eq_bool_iff unwrapped]
  simp [holds]

end Condition

namespace Record

variable {record : Record} {name : String}

/-- Whether no field is a scalar that is kept as JSON. -/
def IsUnwrapped (record : Record) : Prop :=
  ∀ name value, record.get? name = some value → value.isWrapped = false

theorem isUnwrapped_of_entries (h : ∀ m ∈ record.fields.entries, m.2.isWrapped = false) :
    record.IsUnwrapped :=
  fun _ _ found => h _ ((Members.get?_eq_some_iff record.fields.nodup).1 found)

theorem isWrapped_of_fieldValue? (unwrapped : record.IsUnwrapped) {value : FieldValue}
    (found : record.fieldValue? name = some value) : value.isWrapped = false := by
  rw [fieldValue?] at found
  split at found
  · cases found
    rfl
  · exact unwrapped name value found

/-- The row of a record has a member for each value of the record, unless the identifier is hidden
by a field. -/
theorem get?_toJson (unnamed : name = "id" → record.get? "id" = none) :
    record.toJson.get? name = (record.fieldValue? name).map FieldValue.toJson := by
  rw [toJson, Json.get?, get?_members, fieldValue?]
  by_cases own : name = "id"
  · rw [own, unnamed own]
    rfl
  · rw [if_neg own, if_neg own, Option.or_none]

/-- A condition that compares values as they are written matches the rows with an equal member. -/
theorem matches_eq_hasMember (unwrapped : record.IsUnwrapped)
    (unnamed : name = "id" → record.get? "id" = none) {condition : Condition} {v : Json}
    (compares : ∀ value : FieldValue, value.isWrapped = false →
      condition.holds value = value.toJson.same v) :
    (Filter.mk name condition).matches record = record.toJson.hasMember (name, v) := by
  rw [Filter.matches, Json.hasMember, get?_toJson unnamed]
  cases found : record.fieldValue? name with
  | none => rfl
  | some value => exact compares value (isWrapped_of_fieldValue? unwrapped found)

end Record

/-! ### The shorthand of equalities -/

namespace Shorthand

variable {name : String}

/-- The member of an equality denotes it. -/
theorem denotes_equality (plain : IsFieldName name) {v : Json} {relation : Condition}
    (means : Suffix.plain.Means v relation) : Denotes (name, v) ⟨name, relation⟩ :=
  ⟨.plain, plain, (String.append_empty (s := name)).symm, means⟩

/-- A member with a text or a truth value, under the name of a field, is a filter that matches the
records whose rows have an equal member. -/
theorem entry_equality (plain : IsFieldName name) {v : Json} (operand : v.isOperand = true) :
    ∃ filter, entry name v = .ok filter ∧ filter.validate = .ok () ∧
      ∀ record : Record, record.IsUnwrapped → (name = "id" → record.get? "id" = none) →
        filter.matches record = record.toJson.hasMember (name, v) := by
  obtain ⟨s, rfl⟩ | ⟨b, rfl⟩ := Json.isOperand_iff.1 operand
  · have denoted := denotes_equality plain (.relation rfl s)
    refine ⟨_, entry_eq_ok_iff.2 denoted, validate_of_denotes denoted, ?_⟩
    exact fun record unwrapped unnamed =>
      Record.matches_eq_hasMember unwrapped unnamed fun _ own => Condition.holds_text_eq own s
  · have denoted := denotes_equality plain (.truth b)
    refine ⟨_, entry_eq_ok_iff.2 denoted, validate_of_denotes denoted, ?_⟩
    exact fun record unwrapped unnamed =>
      Record.matches_eq_hasMember unwrapped unnamed fun _ own => Condition.holds_boolean_eq own b

/-- A statement of equalities: texts and truth values under different names of fields. -/
structure IsEqualities (members : List (String × Json)) : Prop where
  distinct : (Members.names members).Nodup
  names : ∀ m ∈ members, IsFieldName m.1
  operands : ∀ m ∈ members, m.2.isOperand = true

/-- The filters of a statement of equalities match the records whose rows have all its members. -/
theorem parse_equalities {members : List (String × Json)} (names : ∀ m ∈ members, IsFieldName m.1)
    (operands : ∀ m ∈ members, m.2.isOperand = true) :
    ∃ filters, parse (.object members) = .ok filters ∧ FilterSet.validate filters = .ok () ∧
      ∀ record : Record, record.IsUnwrapped →
        ("id" ∈ Members.names members → record.get? "id" = none) →
          FilterSet.matches filters record = members.all record.toJson.hasMember := by
  induction members with
  | nil => exact ⟨[], rfl, rfl, fun _ _ _ => rfl⟩
  | cons m rest ih =>
    obtain ⟨name, v⟩ := m
    obtain ⟨named, names⟩ := List.forall_mem_cons.1 names
    obtain ⟨operand, operands⟩ := List.forall_mem_cons.1 operands
    obtain ⟨filter, first, valid, equal⟩ := entry_equality named operand
    obtain ⟨filters, later, validRest, equalRest⟩ := ih names operands
    refine ⟨filter :: filters, ?_, ?_, fun record unwrapped unnamed => ?_⟩
    · have others : entries rest = .ok filters := later
      rw [parse, entries, first, others]
      rfl
    · rw [FilterSet.validate, valid]
      exact validRest
    · have here := equal record unwrapped fun own => unnamed (own ▸ List.mem_cons_self)
      have there := equalRest record unwrapped fun mem => unnamed (List.mem_cons_of_mem _ mem)
      rw [FilterSet.matches, List.all_cons, List.all_cons, here, ← there]
      rfl

end Shorthand

/-! ### Queries -/

namespace Store

theorem query_eq {store : Store} (identified : store.Has Key.Identifies) {statement : String}
    {members : List (String × Json)} (read : Json.parse? statement = some (.object members))
    (place : Place) (arrangement : Arrangement) :
    store.query place arrangement statement = .ok (((store.table place).filter fun record =>
      members.all record.toJson.hasMember).map Record.toJson) := by
  rw [query, read, mergeSort_snapshot identified place arrangement]
  simp only [List.filter_map]
  rfl

/-- **Queries and lists agree on equalities**, in whatever order either of them gets the records. -/
theorem query_eq_list (schedule : List Step) (place : Place) {members : List (String × Json)}
    (equalities : Shorthand.IsEqualities members) :
    let store := (Schedule.run schedule .empty).store
    (∀ record ∈ store.table place, record.IsUnwrapped) →
    ("id" ∈ Members.names members → ∀ record ∈ store.table place, record.get? "id" = none) →
      Json.parse? (Json.object members).print = some (.object members) ∧
      ∃ filters, Shorthand.parse (.object members) = .ok filters ∧ ∀ listing : Arrangement,
        ∃ result, store.list place listing ⟨filters, [], none, .unpaged⟩ = .ok (some result) ∧
          ∀ (querying : Arrangement) (statement : String),
            Json.parse? statement = some (.object members) →
              store.query place querying statement = .ok (result.records.map Record.toJson) := by
  intro store unwrapped unnamed
  have identified : store.Has Key.Identifies := Schedule.has_identified schedule
  obtain ⟨filters, parsed, valid, equal⟩ :=
    Shorthand.parse_equalities equalities.names equalities.operands
  refine ⟨Json.parse?_print_object equalities.distinct equalities.operands, filters, parsed,
    fun listing => ?_⟩
  obtain ⟨result, listed, records⟩ := list_eq identified place listing valid
  refine ⟨result, listed, fun querying statement read => ?_⟩
  have same : (store.table place).filter (FilterSet.matches filters) =
      (store.table place).filter fun record => members.all record.toJson.hasMember :=
    List.filter_congr fun record mem =>
      equal record (unwrapped record mem) fun named => unnamed named record mem
  rw [query_eq identified read, records, FilterSet.apply, same]

/-- The school enters a pupil. -/
def enrollment (pupil : Record) : List Step :=
  [.call ⟨.ofSeconds 1714557600, "p-1", .byId⟩ (.new ⟨"school"⟩) (.create "pupils" pupil)]

/-- The table of the pupils. -/
def pupils : Place := ⟨⟨"school"⟩, "pupils"⟩

/-- A pupil with a name, a truth value and marks. -/
def ada : Record := ⟨"ada", .ofList [("name", .text "Ada"), ("enrolled", .boolean true),
  ("marks", .json (.array [.text "A"]))]⟩

/-- A pupil is found by the identifier, a truth value and the text of a stamp. -/
theorem ada_is_queried :
    let store := (Schedule.run (enrollment ada) .empty).store
    let members := [("enrolled", Json.bool true), ("id", .text "ada"),
      ("created_at", .text "2024-05-01T10:00:00+00:00")]
    store.query pupils .byId (Json.object members).print =
      .ok [(ada.touch (.ofSeconds 1714557600)).toJson] := by
  intro store members
  have table : store.table pupils = [ada.touch (.ofSeconds 1714557600)] := by rfl
  have unwrapped : ∀ record ∈ store.table pupils, record.IsUnwrapped := by
    rw [table]
    exact fun record mem => List.mem_singleton.1 mem ▸ Record.isUnwrapped_of_entries (by decide)
  have unnamed : ∀ record ∈ store.table pupils, record.get? "id" = none := by
    rw [table]
    exact fun record mem => List.mem_singleton.1 mem ▸ rfl
  have equalities : Shorthand.IsEqualities members := ⟨by decide, by decide, by decide⟩
  obtain ⟨text, filters, parsed, lists⟩ :=
    query_eq_list (enrollment ada) pupils equalities unwrapped fun _ => unnamed
  obtain ⟨result, listed, queried⟩ := lists .reversed
  have read : Shorthand.parse (.object members) = .ok [⟨"enrolled", .boolean true⟩,
      ⟨"id", .text .equals "ada" false⟩,
      ⟨"created_at", .text .equals "2024-05-01T10:00:00+00:00" false⟩] := by rfl
  rw [read] at parsed
  cases parsed
  have kept : Except.ok (some [ada.touch (.ofSeconds 1714557600)]) =
      .ok (some result.records) := congrArg (Except.map (Option.map ListResult.records)) listed
  have answer := queried .byId _ text
  rw [← Option.some.inj (Except.ok.inj kept)] at answer
  exact answer

/-- A pupil with another identifier in a field. -/
def impostor : Record := ⟨"ada", .ofList [("id", .text "eve")]⟩

/-- The row of a record whose identifier is hidden by a field has the value of the field, by which
the list does not find the record. -/
theorem named_id_is_hidden :
    let store := (Schedule.run (enrollment impostor) .empty).store
    let members := [("id", Json.text "eve")]
    Shorthand.IsEqualities members ∧ (∀ record ∈ store.table pupils, record.IsUnwrapped) ∧
      ∃ filters result row, Shorthand.parse (.object members) = .ok filters ∧
        store.list pupils .byId ⟨filters, [], none, .unpaged⟩ = .ok (some result) ∧
        result.records = [] ∧
        store.query pupils .byId (Json.object members).print = .ok [row] := by
  intro store members
  have equalities : Shorthand.IsEqualities members := ⟨by decide, by decide, by decide⟩
  have read := Json.parse?_print_object equalities.distinct equalities.operands
  refine ⟨equalities, ?_, _, _, (impostor.touch (.ofSeconds 1714557600)).toJson, rfl, rfl, rfl, ?_⟩
  · have table : store.table pupils = [impostor.touch (.ofSeconds 1714557600)] := by rfl
    rw [table]
    exact fun record mem => List.mem_singleton.1 mem ▸ Record.isUnwrapped_of_entries (by decide)
  · rw [query_eq (Schedule.has_identified _) read]
    rfl

end Store

end RecordStore
