import RecordStore.List.Wire
import RecordStore.Proofs.Field.Json
import RecordStore.Proofs.Record.Json

/-!
# Requests and results on the wire

What is written for a list request or for a list result is read as the same request or result. A
request must have finite numbers in its filters, since others are written as `null`. In a result the
same holds for the scores of the hits, and of the fields of its records some are written like
something else: a timestamp like its text, and a JSON value that is a scalar like that scalar.

* `Json.slots?_of_names`, `Json.list?_map`, `Json.optional_getD` — the slots of an object, lists, and
  values that may be missing;
* `Record.read?_serialize`, `Record.isFaithful_of_read?` — the records that are read as they were
  written;
* `ListParams.ofJson?_toJson`, `ListResult.ofJson?_toJson` — requests and results;
* `wire_round_trip` — both of them.
-/

namespace RecordStore

/-! ### Parts of a form -/

namespace Json

/-- The slots of an object without repeated names, in whatever order its members are. -/
theorem slots?_object {members : List (String × Json)} (distinct : (Members.names members).Nodup)
    (names : List String) :
    slots? names (.object members) = some (names.map fun name => Members.get? name members) := by
  rw [slots?, slotsOfObject?]
  · induction names with
    | nil => rfl
    | cons name rest ih =>
      rw [List.mapM_cons, Members.only?_eq distinct, ih]
      rfl
  · exact nofun

/-- The slots of an object whose members have the names of the slots, in their order. -/
theorem slots?_of_names {members : List (String × Json)} {names : List String}
    (same : Members.names members = names) (distinct : names.Nodup) :
    slots? names (.object members) = some (members.map fun m => some m.2) := by
  subst same
  rw [slots?_object distinct, Members.names, List.map_map]
  exact congrArg some
    (List.map_congr_left fun _ mem => (Members.get?_eq_some_iff distinct).2 mem)

variable {α : Type} {write : α → Json} {read : Json → Option α}

theorem list?_map {values : List α} (back : ∀ a ∈ values, read (write a) = some a) :
    list? read (.array (values.map write)) = some values := by
  rw [list?]
  induction values with
  | nil => rfl
  | cons a rest ih =>
    obtain ⟨first, others⟩ := List.forall_mem_cons.1 back
    rw [List.map_cons, List.mapM_cons, first, ih others]
    rfl

theorem list?_text (texts : List String) :
    list? text? (.array (texts.map .text)) = some texts :=
  list?_map fun _ _ => rfl

/-- A value that may be missing, whose form is not that of nothing. -/
theorem optional_getD {value : Option α} (back : ∀ a, value = some a → read (write a) = some a)
    (present : ∀ a, value = some a → write a ≠ .null) :
    optional read (some ((value.map write).getD .null)) = some value := by
  cases value with
  | none => rfl
  | some a =>
    rw [Option.map_some, Option.getD_some]
    have written := present a rfl
    cases form : write a with
    | null => exact absurd form written
    | _ => rw [optional, ← form, back a rfl, Option.map_some]; simp

/-! ### Numbers -/

theorem binary64?_ofBinary64 {x : Binary64} (finite : x.isFinite = true) :
    binary64? (.ofBinary64 x) = some x := by
  rw [ofBinary64, dif_pos finite]
  rfl

theorem ofInt?_eq {i : Int} (bounded : -2 ^ 63 ≤ i ∧ i < 2 ^ 64) :
    JsonNumber.ofInt? i = some (.integer i bounded) :=
  dif_pos bounded

theorem ofInt_eq {i : Int} (bounded : -2 ^ 63 ≤ i ∧ i < 2 ^ 64) :
    ofInt i = .number (.integer i bounded) := by
  rw [ofInt, ofInt?_eq bounded]

theorem int32?_ofInt (i : Int32) : int32? (.ofInt i.toInt) = some i := by
  have low := i.le_toInt
  have high := i.toInt_lt
  rw [ofInt_eq (by omega), int32?, intBetween?, if_pos (by omega), Option.map_some,
    Int32.ofInt_toInt]

-- The number is generalized before anything is reduced: a comparison of a variable natural number
-- with `2 ^ 64` is unfolded one by one.
theorem ofNat_eq_getD :
    Json.ofNat = fun n : Nat => ((JsonNumber.ofInt? n).map Json.number).getD .null := by
  delta Json.ofNat
  funext n
  generalize JsonNumber.ofInt? n = number
  cases number <;> rfl

theorem ofNat_eq {n : Nat} (bounded : -2 ^ 63 ≤ (n : Int) ∧ (n : Int) < 2 ^ 64) :
    ofNat n = .number (.integer n bounded) := by
  rw [ofNat_eq_getD]
  show ((JsonNumber.ofInt? n).map Json.number).getD .null = _
  rw [ofInt?_eq bounded, Option.map_some, Option.getD_some]

theorem nat64?_ofNat {n : Nat} (bounded : n < 2 ^ 64) : nat64? (.ofNat n) = some n := by
  have number : -2 ^ 63 ≤ (n : Int) ∧ (n : Int) < 2 ^ 64 := by omega
  have natural : 0 ≤ (n : Int) ∧ (n : Int) ≤ 2 ^ 64 - 1 := by omega
  rw [ofNat_eq number, nat64?, intBetween?, if_pos natural, Option.map_some, Int.toNat_natCast]

theorem required_nat64? {n : Nat} (bounded : n < 2 ^ 64) :
    required nat64? (some (.ofNat n)) = some n := by
  rw [required, Option.bind_some, nat64?_ofNat bounded]

theorem optional_nat64? {value : Option Nat} (bounded : ∀ n, value = some n → n < 2 ^ 64) :
    optional nat64? (some ((value.map .ofNat).getD .null)) = some value :=
  optional_getD (fun n same => nat64?_ofNat (bounded n same))
    fun n same => by
      have small := bounded n same
      rw [ofNat_eq ⟨by omega, by omega⟩]
      simp

end Json

/-! ### Requests -/

namespace NumericOperator

theorem ofJson?_toJson {operator : NumericOperator}
    (finite : ∀ v ∈ operator.operands, v.isFinite = true) :
    ofJson? operator.toJson = some operator := by
  have operand {v : Binary64} (mem : v ∈ operator.operands) :
      Json.binary64? (.ofBinary64 v) = some v := Json.binary64?_ofBinary64 (finite v mem)
  have slots : Json.slots? ["op", "value"] operator.toJson =
      some [some (.text operator.wireName), some operator.operandJson] := rfl
  rw [ofJson?, slots]
  cases operator with
  | equals v
  | greaterThan v
  | lessThan v
  | greaterOrEqual v
  | lessOrEqual v =>
    show (Json.binary64? (.ofBinary64 v)).map _ = _
    rw [operand List.mem_cons_self]
    rfl
  | between low high =>
    show ((Json.binary64? (.ofBinary64 low)).bind fun l =>
      (Json.binary64? (.ofBinary64 high)).bind fun h => some (NumericOperator.between l h)) = _
    rw [operand List.mem_cons_self, operand (List.mem_cons_of_mem _ List.mem_cons_self)]
    rfl

end NumericOperator

namespace Filter

/-- Whether all numbers in a filter are finite. -/
def IsFinite (filter : Filter) : Prop :=
  ∀ operator, filter.condition = .numeric operator → ∀ v ∈ operator.operands, v.isFinite = true

theorem ofJson?_toJson {filter : Filter} (finite : filter.IsFinite) :
    ofJson? filter.toJson = some filter := by
  obtain ⟨field, condition⟩ := filter
  cases condition with
  | text operator operand ignoreCase => cases operator <;> rfl
  | boolean operand => rfl
  | numeric operator =>
    show ((NumericOperator.ofJson? operator.toJson).map Condition.numeric).bind _ = _
    rw [NumericOperator.ofJson?_toJson (finite operator rfl)]
    rfl

end Filter

namespace SortKey

theorem ofJson?_toJson (key : SortKey) : ofJson? key.toJson = some key := by
  obtain ⟨field, direction⟩ := key
  cases direction <;> rfl

end SortKey

namespace SearchSpec

theorem ofJson?_toJson (spec : SearchSpec) : ofJson? spec.toJson = some spec := by
  show (Json.list? Json.text? (.array (spec.fields.map .text))).bind _ = _
  rw [Json.list?_text]
  rfl

end SearchSpec

namespace PageRequest

theorem ofJson?_toJson (request : PageRequest) : ofJson? request.toJson = some request := by
  show (Json.int32? (.ofInt request.limit.toInt)).bind (fun limit =>
    (Json.int32? (.ofInt request.page.toInt)).bind fun page => some (PageRequest.mk limit page)) = _
  rw [Json.int32?_ofInt, Json.int32?_ofInt]
  rfl

end PageRequest

namespace ListParams

/-- A request with finite numbers in its filters is read as it was written. -/
theorem ofJson?_toJson {params : ListParams} (finite : ∀ filter ∈ params.filters, filter.IsFinite) :
    ofJson? params.toJson = some params := by
  have filters : FilterSet.ofJson? (FilterSet.toJson params.filters) = some params.filters :=
    Json.list?_map fun filter mem => Filter.ofJson?_toJson (finite filter mem)
  have sort : SortSpec.ofJson? (SortSpec.toJson params.sort) = some params.sort :=
    Json.list?_map fun key _ => SortKey.ofJson?_toJson key
  have search : Json.optional SearchSpec.ofJson?
      (some ((params.search.map SearchSpec.toJson).getD .null)) = some params.search :=
    Json.optional_getD (fun spec _ => SearchSpec.ofJson?_toJson spec) fun spec _ => nofun
  have slots : Json.slots? ["filters", "sort", "search", "pagination"] params.toJson =
      some [some (FilterSet.toJson params.filters), some (SortSpec.toJson params.sort),
        some ((params.search.map SearchSpec.toJson).getD .null), some params.page.toJson] := by
    rw [toJson, Json.slots?_of_names (by rfl) (by decide)]
    simp only [List.map_cons, List.map_nil]
  simp only [ofJson?, slots, Json.orElse, filters, sort, search, PageRequest.ofJson?_toJson,
    Option.bind_eq_bind, Option.bind_some]

end ListParams

/-! ### Results -/

namespace PageInfo

/-- Whether all counts are of 64 bits. -/
def IsBounded (info : PageInfo) : Prop :=
  info.totalItems < 2 ^ 64 ∧ (∀ n, info.totalPages = some n → n < 2 ^ 64) ∧
    ∀ n, info.currentPage = some n → n < 2 ^ 64

theorem ofJson?_toJson {info : PageInfo} (bounded : info.IsBounded) :
    ofJson? info.toJson = some info := by
  obtain ⟨items, pages, current⟩ := bounded
  have slots : Json.slots? ["total_items", "total_pages", "current_page", "has_next", "has_prev"]
      info.toJson = some [some (.ofNat info.totalItems),
        some ((info.totalPages.map Json.ofNat).getD .null),
        some ((info.currentPage.map Json.ofNat).getD .null),
        some (.bool info.hasNext), some (.bool info.hasPrev)] := by
    rw [toJson, Json.slots?_of_names (by rfl) (by decide)]
    simp only [List.map_cons, List.map_nil]
  have flag (b : Bool) : Json.required Json.bool? (some (.bool b)) = some b := rfl
  simp only [ofJson?, slots, Json.required_nat64? items, Json.optional_nat64? pages,
    Json.optional_nat64? current, flag, Option.bind_eq_bind, Option.bind_some]

end PageInfo

namespace SearchHit

theorem ofJson?_toJson {hit : SearchHit} (finite : hit.score.isFinite = true) :
    ofJson? hit.toJson = some hit := by
  have slots : Json.slots? ["record_id", "score", "highlights"] hit.toJson =
      some [some (.text hit.recordId), some (.ofBinary64 hit.score),
        some (.array (hit.highlights.map .text))] := by
    rw [toJson, Json.slots?_of_names (by rfl) (by decide)]
    simp only [List.map_cons, List.map_nil]
  simp only [ofJson?, slots, Json.required, Json.text?, Json.binary64?_ofBinary64 finite,
    Json.list?_text, Option.bind_eq_bind, Option.bind_some]

end SearchHit

namespace Record

/-- Whether all fields of a record are read as they were written, and none is hidden behind the
identifier. -/
def IsFaithful (record : Record) : Prop :=
  record.get? "id" = none ∧ ∀ name value, record.get? name = some value → value.IsFaithful

theorem read?_serialize {record : Record} (faithful : record.IsFaithful) :
    read? record.serialize = some record := by
  obtain ⟨unnamed, values⟩ := faithful
  have kept : Members.mapValues (fun value => FieldValue.read value.serialize.distinct)
      record.fields.entries = record.fields.entries := by
    have each : ∀ m ∈ record.fields.entries,
        (m.1, FieldValue.read m.2.serialize.distinct) = m := by
      rintro ⟨name, value⟩ mem
      have found := (Members.get?_eq_some_iff record.fields.nodup).2 mem
      rw [FieldValue.read_serialize_iff.2 (values name value found)]
    exact (List.map_congr_left each).trans (List.map_id' _)
  rw [serialize_eq, read?_written unnamed]
  unfold reread Fields.mapValues
  simp only [kept]

/-- Every record that is read can be written and read again. -/
theorem isFaithful_of_read? {v : Json} {record : Record} (h : read? v = some record) :
    record.IsFaithful := by
  -- all that matters of the fields is where their entries come from
  have sources : ∀ m ∈ record.fields.entries,
      m.1 ≠ "id" ∧ ∃ w : Json, m.2 = FieldValue.read w.distinct := by
    unfold read? at h
    split at h
    · split at h
      · cases h
        intro m mem
        obtain ⟨source, kept, rfl⟩ := List.mem_map.1 (Members.mem_of_mem_distinct mem)
        exact ⟨by simpa using (List.mem_filter.1 kept).2, source.2, rfl⟩
      · cases h
    · cases h
  refine ⟨?_, fun name value found => ?_⟩
  · refine Members.get?_eq_none_iff.2 fun named => ?_
    obtain ⟨m, mem, same⟩ := List.mem_map.1 named
    exact (sources m mem).1 same
  · obtain ⟨-, w, rfl⟩ := sources _ ((Members.get?_eq_some_iff record.fields.nodup).1 found)
    exact FieldValue.isFaithful_read w

end Record

namespace ListResult

/-- Whether a result has records whose fields are read as they were written, finite scores, and
counts of 64 bits. -/
structure IsFaithful (result : ListResult Record) : Prop where
  records : ∀ record ∈ result.records, record.IsFaithful
  scores : ∀ hit ∈ result.hits, hit.score.isFinite = true
  total : result.total < 2 ^ 64
  page : result.page.IsBounded

/-- A result whose values are told apart on the wire is read as it was written. -/
theorem ofJson?_toJson {result : ListResult Record} (faithful : result.IsFaithful) :
    ofJson? result.toJson = some result := by
  have records : Json.list? Record.read? (.array (result.records.map Record.serialize)) =
      some result.records :=
    Json.list?_map fun record mem => Record.read?_serialize (faithful.records record mem)
  have hits : Json.list? SearchHit.ofJson? (.array (result.hits.map SearchHit.toJson)) =
      some result.hits :=
    Json.list?_map fun hit mem => SearchHit.ofJson?_toJson (faithful.scores hit mem)
  have slots : Json.slots? ["records", "total", "pagination", "search_results"] result.toJson =
      some [some (.array (result.records.map Record.serialize)), some (.ofNat result.total),
        some result.page.toJson, some (.array (result.hits.map SearchHit.toJson))] := by
    rw [toJson, Json.slots?_of_names (by rfl) (by decide)]
    simp only [List.map_cons, List.map_nil]
  have part {α : Type} (read : Json → Option α) (v : Json) :
      Json.required read (some v) = read v := rfl
  rw [ofJson?, slots]
  simp only [Json.required_nat64? faithful.total, part, records, hits,
    PageInfo.ofJson?_toJson faithful.page, Option.bind_eq_bind, Option.bind_some]

end ListResult

/-! ### Both -/

/-- **Round trips on the wire.** A request with finite numbers in its filters, and a result whose
values are told apart, are read as they were written. -/
theorem wire_round_trip :
    (∀ params : ListParams, (∀ filter ∈ params.filters, filter.IsFinite) →
      ListParams.ofJson? params.toJson = some params) ∧
    ∀ result : ListResult Record, result.IsFaithful →
      ListResult.ofJson? result.toJson = some result :=
  ⟨fun _ finite => ListParams.ofJson?_toJson finite,
    fun _ faithful => ListResult.ofJson?_toJson faithful⟩

/-- The search for a course of one to five credits, and the course that is found. -/
theorem courses_round_trip :
    let params : ListParams :=
      ⟨[⟨"credits", .numeric (.between (.ofInt 1) (.ofInt 5))⟩, ⟨"name", .text .contains "al" true⟩,
          ⟨"open", .boolean true⟩],
        [⟨"name", .descending⟩], some ⟨"alg", ["name"]⟩, ⟨20, 1⟩⟩
    let course : Record := ⟨"c1", .ofList [("name", .text "Algebra"), ("credits", .integer 3),
      ("open", .boolean true), ("tags", .json (.array [.text "core"])), ("room", .null)]⟩
    let result : ListResult Record :=
      ⟨[course], 1, ⟨1, some 1, some 1, false, false⟩, [⟨"c1", .ofInt 1, ["Alg"]⟩]⟩
    ListParams.ofJson? params.toJson = some params ∧
      ListResult.ofJson? result.toJson = some result := by
  intro params course result
  refine ⟨wire_round_trip.1 params ?_, wire_round_trip.2 result ⟨?_, ?_, by decide, ?_⟩⟩
  · intro filter mem operator numeric
    rcases List.mem_cons.1 mem with rfl | mem
    · cases numeric
      decide
    · rcases List.mem_pair.1 mem with rfl | rfl <;> cases numeric
  · intro record mem
    obtain rfl := List.mem_singleton.1 mem
    refine ⟨rfl, fun name value found => ?_⟩
    have known : (name, value) ∈ course.fields.entries :=
      (Members.get?_eq_some_iff course.fields.nodup).1 found
    have values : ∀ m ∈ course.fields.entries, m.2.IsFaithful := by
      refine List.forall_mem_cons.2 ⟨trivial, List.forall_mem_cons.2 ⟨trivial, ?_⟩⟩
      refine List.forall_mem_cons.2 ⟨trivial, List.forall_mem_cons.2 ⟨⟨rfl, rfl⟩, ?_⟩⟩
      exact fun m mem => List.mem_singleton.1 mem ▸ trivial
    exact values _ known
  · exact fun hit mem => List.mem_singleton.1 mem ▸ (by decide)
  · exact ⟨by decide, fun n same => by cases same; decide, fun n same => by cases same; decide⟩

end RecordStore
