import Mathlib.Data.List.Forall2
import RecordStore.Proofs.Error
import RecordStore.Proofs.List.Pipeline
import RecordStore.Proofs.Timestamp.Text

/-!
# Lists of timestamps and of their texts

A record that has been stored and read back holds the texts of its timestamps. Filters and searches
treat a timestamp as its text anyway. Sorting compares two timestamps as instants, which comes to
the same for the years 0 to 9999 unless one of them runs on into the second of the other. A
timestamp of a later year is below all these texts and above all these instants.

* `FieldValue.Written`, `Record.Written` — the same value or record with some timestamps written
  out;
* `SortSpec.compareRecords_written`, `SortSpec.sort?_written` — where they compare and are sorted
  alike;
* `ListResult.execute_written` — where no later year is sorted by, and no timestamp that overtakes
  another one, a list stays the same.
-/

namespace RecordStore

/-! ### Values -/

namespace FieldValue

/-- A value as it is, or a timestamp of the years 0 to 9999 and its text. -/
inductive Written : FieldValue → FieldValue → Prop where
  | same (value : FieldValue) : Written value value
  | text {t : Timestamp} (h : t.HasFourDigitYear) : Written (.instant t) (.text t.text)

variable {v v' w w' : FieldValue}

theorem Written.holds (h : v.Written v') (condition : Condition) :
    condition.holds v' = condition.holds v := by
  cases h with
  | same => rfl
  | text => cases condition <;> rfl

theorem Written.searchableText? (h : v.Written v') : v'.searchableText? = v.searchableText? := by
  cases h <;> rfl

/-- A timestamp of a year after 9999. -/
def IsLate : FieldValue → Prop
  | .instant t => 9999 < t.year
  | _ => False

/-- A timestamp that overtakes another one. -/
def Overtakes : FieldValue → FieldValue → Prop
  | .instant t, .instant u => t.Overtakes u
  | _, _ => False

/-- Two values keep their order when timestamps are written out: neither of them is late, and
neither overtakes the other one. -/
structure KeepsOrder (v w : FieldValue) : Prop where
  early : ¬ v.IsLate
  early' : ¬ w.IsLate
  apart : ¬ v.Overtakes w
  apart' : ¬ w.Overtakes v

/-- Values that keep their order compare as before when some of them are written out. -/
theorem Written.compare (hv : v.Written v') (hw : w.Written w') (keeps : v.KeepsOrder w) :
    v'.compare w' = v.compare w := by
  cases hv with
  | same =>
    cases hw with
    | same => rfl
    | @text u hu =>
      cases v with
      | instant t =>
        have notLate : t.year ≤ 9999 := Int.not_lt.1 keeps.early
        exact (Timestamp.compare_text_eq_iff hu).2 ⟨notLate, keeps.apart, keeps.apart'⟩
      | _ => rfl
  | @text t ht =>
    cases hw with
    | same =>
      cases w with
      | instant u =>
        have notLate : u.year ≤ 9999 := Int.not_lt.1 keeps.early'
        show Text.compare t.text u.text = t.compare u
        have turned := congrArg Ordering.swap
          ((Timestamp.compare_text_eq_iff ht).2 ⟨notLate, keeps.apart', keeps.apart⟩)
        rwa [← Std.OrientedCmp.eq_swap, ← Std.OrientedCmp.eq_swap] at turned
      | _ => rfl
    | @text u hu =>
      exact ((Timestamp.compare_eq_compare_text_iff ht hu).2 ⟨keeps.apart, keeps.apart'⟩).symm

theorem compareOptional_written {a a' b b' : Option FieldValue} (ha : Option.Rel Written a a')
    (hb : Option.Rel Written b b') (keeps : ∀ v w, a = some v → b = some w → v.KeepsOrder w) :
    compareOptional a' b' = compareOptional a b := by
  cases ha with
  | none => cases hb <;> rfl
  | some hv =>
    cases hb with
    | none => rfl
    | some hw => exact hv.compare hw (keeps _ _ rfl rfl)

end FieldValue

/-! ### Records -/

namespace Record

/-- A record with some of its timestamps written out. -/
structure Written (record written : Record) : Prop where
  id : written.id = record.id
  fields : List.Forall₂ (fun field field' => field'.1 = field.1 ∧ field.2.Written field'.2)
    record.fields.entries written.fields.entries

variable {record written : Record}

theorem Written.fieldValue? (h : record.Written written) (name : String) :
    Option.Rel FieldValue.Written (record.fieldValue? name) (written.fieldValue? name) := by
  have get? {l l' : List (String × FieldValue)}
      (fields : List.Forall₂ (fun field field' => field'.1 = field.1 ∧ field.2.Written field'.2)
        l l') : Option.Rel FieldValue.Written (Members.get? name l) (Members.get? name l') := by
    induction fields with
    | nil => exact .none
    | @cons field field' _ _ here _ ih =>
      obtain ⟨key, value⟩ := field
      obtain ⟨key', value'⟩ := field'
      obtain ⟨rfl, value⟩ := here
      rw [Members.get?, Members.get?]
      split
      · exact .some value
      · exact ih
  unfold Record.fieldValue?
  split
  · rw [h.id]
    exact .some (.same _)
  · exact get? h.fields

theorem Written.matches (h : record.Written written) (filters : FilterSet) :
    FilterSet.matches filters written = FilterSet.matches filters record := by
  refine congrArg (List.all filters) (funext fun filter => ?_)
  have values := h.fieldValue? filter.field
  unfold Filter.matches
  generalize record.fieldValue? filter.field = value at values ⊢
  generalize written.fieldValue? filter.field = value' at values ⊢
  cases values with
  | none => rfl
  | some here => exact here.holds filter.condition

theorem Written.hit? (h : record.Written written) (query : String) (fields : List String) :
    Search.hit? query fields written = Search.hit? query fields record := by
  have texts (name : String) : (written.fieldValue? name).bind FieldValue.searchableText? =
      (record.fieldValue? name).bind FieldValue.searchableText? := by
    have values := h.fieldValue? name
    generalize record.fieldValue? name = value at values ⊢
    generalize written.fieldValue? name = value' at values ⊢
    cases values with
    | none => rfl
    | some here => exact here.searchableText?
  simp only [Search.hit?, Search.occurrences, texts, h.id]

/-- No field that is a sort key holds a late timestamp. -/
def SortsEarly (spec : SortSpec) (record : Record) : Prop :=
  ∀ key ∈ spec, key.isRelevance = false →
    ∀ value, record.fieldValue? key.field = some value → ¬ value.IsLate

/-- A field that is a sort key holds a timestamp that overtakes the one of another record. -/
def Overtakes (spec : SortSpec) (record other : Record) : Prop :=
  ∃ key ∈ spec, key.isRelevance = false ∧
    ∃ v w, record.fieldValue? key.field = some v ∧ other.fieldValue? key.field = some w ∧
      v.Overtakes w

end Record

/-! ### Sorting -/

namespace SortSpec

variable {spec : SortSpec} {a a' b b' : Record}

/-- Records compare as before when some of their timestamps are written out. -/
theorem compareRecords_written (scores : List (String × Binary64)) (ha : a.Written a')
    (hb : b.Written b') (early : a.SortsEarly spec) (early' : b.SortsEarly spec)
    (apart : ¬ a.Overtakes spec b) (apart' : ¬ b.Overtakes spec a) :
    compareRecords scores spec a' b' = compareRecords scores spec a b := by
  have keys {key : SortKey} (mem : key ∈ spec) :
      FieldValue.compareOptional (keyValue? scores key a') (keyValue? scores key b') =
        FieldValue.compareOptional (keyValue? scores key a) (keyValue? scores key b) := by
    unfold keyValue?
    cases relevance : key.isRelevance with
    | true => simp only [if_true, ha.id, hb.id]
    | false =>
      refine FieldValue.compareOptional_written (ha.fieldValue? _) (hb.fieldValue? _) ?_
      intro v w hv hw
      exact
        { early := early key mem relevance v hv
          early' := early' key mem relevance w hw
          apart := fun h => apart ⟨key, mem, relevance, v, w, hv, hw, h⟩
          apart' := fun h => apart' ⟨key, mem, relevance, w, v, hw, hv, h⟩ }
  clear early early' apart apart'
  induction spec with
  | nil =>
    show Text.compare a'.id b'.id = Text.compare a.id b.id
    rw [ha.id, hb.id]
  | cons key rest ih =>
    rw [compareRecords_cons, compareRecords_cons, keys List.mem_cons_self,
      ih fun mem => keys (List.mem_cons_of_mem _ mem)]

section Sorting

variable {R : Record → Record → Prop} {cmp : Record → Record → Ordering}

theorem insert_forall₂ (compared : ∀ a a' b b', R a a' → R b b' → cmp a' b' = cmp a b)
    {record record' : Record} (h : R record record') {sorted sorted' : List Record}
    (related : List.Forall₂ R sorted sorted') :
    List.Forall₂ R (insert cmp record sorted) (insert cmp record' sorted') := by
  induction related with
  | nil => exact .cons h .nil
  | cons first rest ih =>
    rw [insert, insert, compared _ _ _ _ h first]
    split
    · exact .cons first ih
    · exact .cons h (.cons first rest)

/-- Records that compare alike are sorted alike. -/
theorem insertAll_forall₂ (compared : ∀ a a' b b', R a a' → R b b' → cmp a' b' = cmp a b)
    {sorted sorted' records records' : List Record} (inserted : List.Forall₂ R sorted sorted')
    (related : List.Forall₂ R records records') :
    List.Forall₂ R (insertAll cmp sorted records) (insertAll cmp sorted' records') := by
  induction related generalizing sorted sorted' with
  | nil => exact inserted
  | cons first _ ih => exact ih (insert_forall₂ compared first inserted)

/-- Records that compare alike are in order alike. -/
theorem orders_of_forall₂ (compared : ∀ a a' b b', R a a' → R b b' → cmp a' b' = cmp a b)
    {records records' : List Record} (related : List.Forall₂ R records records')
    (h : Orders cmp records') : Orders cmp records := by
  have partner : ∀ a ∈ records, ∃ a' ∈ records', R a a' := exists_mem_of_forall₂ related.flip
  refine ⟨fun a ha b hb => ?_, fun a ha b hb c hc => ?_⟩
  · obtain ⟨a', ha', ra⟩ := partner a ha
    obtain ⟨b', hb', rb⟩ := partner b hb
    rw [← compared _ _ _ _ ra rb, ← compared _ _ _ _ rb ra]
    exact h.1 a' ha' b' hb'
  · obtain ⟨a', ha', ra⟩ := partner a ha
    obtain ⟨b', hb', rb⟩ := partner b hb
    obtain ⟨c', hc', rc⟩ := partner c hc
    rw [← compared _ _ _ _ ra rb, ← compared _ _ _ _ rb rc, ← compared _ _ _ _ ra rc]
    exact h.2 a' ha' b' hb' c' hc'

end Sorting

/-- Records that compare alike can be sorted alike, and are. -/
theorem sort?_forall₂ {R : Record → Record → Prop} {scores : List (String × Binary64)}
    (compared : ∀ a a' b b', R a a' → R b b' →
      compareRecords scores spec a' b' = compareRecords scores spec a b)
    {records records' : List Record} (related : List.Forall₂ R records records') :
    Option.Rel (List.Forall₂ R) (sort? scores spec records) (sort? scores spec records') := by
  have orders : Orders (compareRecords scores spec) records ↔
      Orders (compareRecords scores spec) records' := by
    constructor
    · exact orders_of_forall₂ (R := flip R) (fun a' a b' b ha hb => (compared a a' b b' ha hb).symm)
        related.flip
    · exact orders_of_forall₂ compared related
  have sortable : Sortable scores spec records ↔ Sortable scores spec records' := by
    rw [Sortable, Sortable, orders, related.length_eq]
  rw [sort?, sort?]
  simp only [sortable]
  split
  · exact .some (List.forall₂_reverse_iff.2 (insertAll_forall₂ compared .nil related))
  · exact .none

end SortSpec

/-! ### Lists -/

namespace ListResult

variable {records written : List Record} {params : ListParams}

theorem filtered_written (replaced : List.Forall₂ Record.Written records written)
    (filters : FilterSet) :
    List.Forall₂ Record.Written (FilterSet.apply filters records)
      (FilterSet.apply filters written) := by
  refine List.rel_filter (fun record record' h => ?_) replaced
  show FilterSet.matches filters record = true ↔ FilterSet.matches filters record' = true
  rw [h.matches]

theorem hits_written (replaced : List.Forall₂ Record.Written records written) (spec : SearchSpec) :
    Search.hits written spec = Search.hits records spec := by
  unfold Search.hits
  split
  · induction replaced with
    | nil => rfl
    | cons first _ ih => rw [List.filterMap_cons, List.filterMap_cons, first.hit?, ih]
  · rfl

theorem hitsOf_written (params : ListParams)
    (replaced : List.Forall₂ Record.Written records written) :
    hitsOf params written = hitsOf params records := by
  unfold hitsOf
  split
  · rfl
  · rw [hits_written replaced]

theorem ids_written (replaced : List.Forall₂ Record.Written records written) :
    written.map Record.id = records.map Record.id := by
  induction replaced with
  | nil => rfl
  | cons first _ ih => rw [List.map_cons, List.map_cons, first.id, ih]

theorem takeHits_written {page page' : List Record}
    (replaced : List.Forall₂ Record.Written page page') (hits : List (String × SearchHit)) :
    takeHits hits page' = takeHits hits page := by
  induction replaced generalizing hits with
  | nil => rfl
  | cons first _ ih => simp only [takeHits, first.id, ih]

end ListResult

theorem PageRequest.paginate_forall₂ {α : Type} {R : α → α → Prop} (request : PageRequest)
    {items items' : List α} (related : List.Forall₂ R items items') :
    List.Forall₂ R (request.paginate items).1 (request.paginate items').1 ∧
      (request.paginate items').2 = (request.paginate items).2 := by
  unfold paginate
  rw [related.length_eq]
  split
  · exact ⟨List.forall₂_take _ (List.forall₂_drop _ related), rfl⟩
  · exact ⟨related, rfl⟩

namespace ListResult

variable {records written : List Record} {params : ListParams}

/-- The records are found by their identifiers, which are never written out. -/
theorem foundOf_written {R : Record → Record → Prop} (plain : ∀ a a', R a a' → a.Written a')
    (related : List.Forall₂ R records written)
    (hits : hitsOf params written = hitsOf params records) :
    List.Forall₂ R (foundOf params records) (foundOf params written) := by
  unfold foundOf
  rw [hits]
  split
  · exact related
  · refine List.rel_filter (fun record record' h => ?_) related
    show Members.contains record.id _ = true ↔ Members.contains record'.id _ = true
    rw [(plain _ _ h).id]

/-- Searching, sorting and paging treat records alike when some of their timestamps are written
out. -/
theorem finish?_written (replaced : List.Forall₂ Record.Written records written)
    (early : ∀ record ∈ records, record.SortsEarly params.sort)
    (apart : ∀ a ∈ records, ∀ b ∈ records, ¬ a.Overtakes params.sort b) :
    Option.Rel
      (fun listed listed' => List.Forall₂ Record.Written listed.records listed'.records ∧
        listed'.records.map Record.id = listed.records.map Record.id ∧
        listed'.total = listed.total ∧ listed'.page = listed.page ∧ listed'.hits = listed.hits)
      (finish? records params) (finish? written params) := by
  have hits := hitsOf_written params replaced
  have scores : scoresOf params written = scoresOf params records := by
    rw [scoresOf, scoresOf, hits]
  -- a record and what it is written as, the record being one of the list
  let R (a a' : Record) : Prop := a ∈ records ∧ a.Written a'
  have related : List.Forall₂ R records written :=
    (List.forall₂_and_left _ _).2 ⟨fun _ mem => mem, replaced⟩
  have compared (a a' b b' : Record) (ha : R a a') (hb : R b b') :
      SortSpec.compareRecords (scoresOf params records) params.sort a' b' =
        SortSpec.compareRecords (scoresOf params records) params.sort a b :=
    SortSpec.compareRecords_written _ ha.2 hb.2 (early a ha.1) (early b hb.1)
      (apart a ha.1 b hb.1) (apart b hb.1 a ha.1)
  have sorted := SortSpec.sort?_forall₂ compared
    (foundOf_written (fun _ _ h => h.2) related hits)
  rw [finish?_unfold, finish?_unfold, hits, scores]
  generalize SortSpec.sort? (scoresOf params records) params.sort (foundOf params records) = one,
    SortSpec.sort? (scoresOf params records) params.sort (foundOf params written) = other at sorted
  cases sorted with
  | none => exact .none
  | some arrangement =>
    obtain ⟨page, info⟩ := params.page.paginate_forall₂ (arrangement.imp fun _ _ h => h.2)
    exact .some ⟨page, ids_written page, arrangement.length_eq.symm, info, takeHits_written page _⟩

/-- A list stays the same when timestamps of the years 0 to 9999 are replaced by their texts: it is
there or not, and has the same records in the same order, with the same total, page and hits. What
has to be excluded are, in a field that is a sort key, a timestamp of a later year, and a timestamp
that overtakes the one of another record. Exactly those compare with the texts in another way than
with the timestamps, and two timestamps of the years 0 to 9999 are in the order of their texts
unless one of them overtakes the other. -/
theorem execute_written (replaced : List.Forall₂ Record.Written records written)
    (early : ∀ record ∈ records, FilterSet.matches params.filters record = true →
      record.SortsEarly params.sort)
    (apart : ∀ a ∈ records, ∀ b ∈ records, FilterSet.matches params.filters a = true →
      FilterSet.matches params.filters b = true → ¬ a.Overtakes params.sort b) :
    Option.Rel
      (fun listed listed' => List.Forall₂ Record.Written listed.records listed'.records ∧
        listed'.records.map Record.id = listed.records.map Record.id ∧
        listed'.total = listed.total ∧ listed'.page = listed.page ∧ listed'.hits = listed.hits)
      (execute? records params) (execute? written params) ∧
    (∀ t u : Timestamp, t.HasFourDigitYear → u.HasFourDigitYear →
      (t.compare u = Text.compare t.text u.text ↔ ¬ t.Overtakes u ∧ ¬ u.Overtakes t)) ∧
    ∀ t u : Timestamp, u.HasFourDigitYear →
      ((FieldValue.instant t).compare (.text u.text) = (FieldValue.instant t).compare (.instant u) ↔
        ¬ (FieldValue.instant t).IsLate ∧ ¬ t.Overtakes u ∧ ¬ u.Overtakes t) := by
  refine ⟨?_, fun t u => Timestamp.compare_eq_compare_text_iff, fun t u hu => ?_⟩
  · refine finish?_written (filtered_written replaced params.filters) (fun record mem => ?_)
      fun a ha b hb => ?_
    · obtain ⟨known, fits⟩ := List.mem_filter.1 mem
      exact early record known fits
    · obtain ⟨known, fits⟩ := List.mem_filter.1 ha
      obtain ⟨known', fits'⟩ := List.mem_filter.1 hb
      exact apart a known b known' fits fits'
  · rw [FieldValue.IsLate, Int.not_lt]
    exact Timestamp.compare_text_eq_iff hu

/-- A record with the moment it stands for. -/
def dated (id : String) (moment : FieldValue) : Record := ⟨id, .ofList [("at", moment)]⟩

/-- Records with the same moment, or with a timestamp and its text. -/
theorem dated_written {id : String} {moment moment' : FieldValue} (h : moment.Written moment') :
    (dated id moment).Written (dated id moment') := ⟨rfl, .cons ⟨rfl, h⟩ .nil⟩

/-- All moments in one direction. -/
def byMoment (direction : SortDirection) : ListParams :=
  { ListParams.all with sort := [⟨"at", direction⟩] }

/-- The identifiers of the moments in their order. -/
def orderOf (moments : List Record) (direction : SortDirection) : Option (List String) :=
  (execute? moments (byMoment direction)).map fun listed => listed.records.map Record.id

/-- Timestamps that keep their order are in a list of moments as `execute_written` asks for. -/
theorem dated_keeps (moments : List (String × Timestamp)) (direction : SortDirection)
    (keeps : ∀ a ∈ moments, ∀ b ∈ moments, a.2.year ≤ 9999 ∧ ¬ a.2.Overtakes b.2) :
    let records := moments.map fun moment => dated moment.1 (.instant moment.2)
    (∀ record ∈ records, record.SortsEarly (byMoment direction).sort) ∧
      ∀ a ∈ records, ∀ b ∈ records, ¬ a.Overtakes (byMoment direction).sort b := by
  constructor
  · refine List.forall_mem_map.2 fun a ha => List.forall_mem_singleton.2 fun _ value found => ?_
    obtain rfl : FieldValue.instant a.2 = value := Option.some.inj found
    exact Int.not_lt.2 (keeps a ha a ha).1
  · refine List.forall_mem_map.2 fun a ha => List.forall_mem_map.2 fun b hb => ?_
    rintro ⟨key, mem, -, v, w, hv, hw, overtakes⟩
    obtain rfl := List.mem_singleton.1 mem
    obtain rfl : FieldValue.instant a.2 = v := Option.some.inj hv
    obtain rfl : FieldValue.instant b.2 = w := Option.some.inj hw
    exact (keeps a ha b hb).2 overtakes

/-- A list of the first second of a year, the leap second before it, a second that runs on and the
last second before the year zero, the first three of which are written out. -/
theorem execute_leap_second :
    let newYear : Timestamp := .ofSeconds 1483228800
    let leapSecond : Timestamp := ⟨1483228799, 1500000000, by decide⟩
    let runningOn : Timestamp := ⟨1483228730, 1500000000, by decide⟩
    let ancient : Timestamp := .ofSeconds (-62167219201)
    let moments := [dated "b" (.instant leapSecond), dated "a" (.instant newYear),
      dated "d" (.instant runningOn), dated "c" (.instant ancient)]
    let written := [dated "b" (.text "2016-12-31T23:59:60.500+00:00"),
      dated "a" (.text "2017-01-01T00:00:00+00:00"),
      dated "d" (.text "2016-12-31T23:58:51.500+00:00"), dated "c" (.instant ancient)]
    List.Forall₂ Record.Written moments written ∧
      (∀ record ∈ moments, record.SortsEarly (byMoment .descending).sort) ∧
      (∀ a ∈ moments, ∀ b ∈ moments, ¬ a.Overtakes (byMoment .descending).sort b) ∧
      orderOf moments .descending = some ["a", "b", "d", "c"] ∧
      orderOf written .descending = some ["a", "b", "d", "c"] := by
  intro newYear leapSecond runningOn ancient moments written
  have leapText : leapSecond.text = "2016-12-31T23:59:60.500+00:00" := by decide +kernel
  have newText : newYear.text = "2017-01-01T00:00:00+00:00" := by decide +kernel
  have runningText : runningOn.text = "2016-12-31T23:58:51.500+00:00" := by decide +kernel
  have replaced : List.Forall₂ Record.Written moments written := by
    refine .cons (dated_written ?_) (.cons (dated_written ?_)
      (.cons (dated_written ?_) (.cons (dated_written (.same _)) .nil)))
    · rw [← leapText]
      exact .text (by decide)
    · rw [← newText]
      exact .text (by decide)
    · rw [← runningText]
      exact .text (by decide)
  obtain ⟨early, apart⟩ := dated_keeps
    [("b", leapSecond), ("a", newYear), ("d", runningOn), ("c", ancient)] .descending (by decide)
  have earlyKept : ∀ record ∈ moments,
      FilterSet.matches (byMoment .descending).filters record = true →
        record.SortsEarly (byMoment .descending).sort := fun record mem _ => early record mem
  obtain ⟨listed, -⟩ := execute_written replaced earlyKept fun a ha b hb _ _ => apart a ha b hb
  have sorted : orderOf moments .descending = some ["a", "b", "d", "c"] := rfl
  have same : orderOf written .descending = orderOf moments .descending := by
    unfold orderOf
    generalize execute? moments _ = one, execute? written _ = other at listed ⊢
    cases listed with
    | none => rfl
    | some same => exact congrArg some same.2.1
  exact ⟨replaced, early, apart, sorted, same.trans sorted⟩

/-- A list changes when a timestamp is written out beside one of the year 10000, whose text begins
with a sign. It also changes when the thirtieth second of a minute runs on and is written out as the
next one, in which there is another timestamp. -/
theorem execute_reordered :
    let late : Timestamp := .ofSeconds 253402302600
    let early : Timestamp := .ofSeconds 946684800
    let runningOn : Timestamp := ⟨1714557630, 1500000000, by decide⟩
    let next : Timestamp := ⟨1714557631, 200000000, by decide⟩
    early.HasFourDigitYear ∧ runningOn.HasFourDigitYear ∧ next.HasFourDigitYear ∧
      early.text = "2000-01-01T00:00:00+00:00" ∧
      runningOn.text = "2024-05-01T10:00:31.500+00:00" ∧
      next.text = "2024-05-01T10:00:31.200+00:00" ∧
      orderOf [dated "a" (.instant late), dated "b" (.instant early)] .ascending =
        some ["b", "a"] ∧
      orderOf [dated "a" (.instant late), dated "b" (.text early.text)] .ascending =
        some ["a", "b"] ∧
      orderOf [dated "a" (.instant runningOn), dated "b" (.instant next)] .ascending =
        some ["a", "b"] ∧
      orderOf [dated "a" (.text runningOn.text), dated "b" (.text next.text)] .ascending =
        some ["b", "a"] := by
  decide +kernel

end ListResult

end RecordStore
