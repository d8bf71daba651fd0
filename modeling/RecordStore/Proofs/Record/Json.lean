import RecordStore.Proofs.Field.Order
import RecordStore.Proofs.Filter
import RecordStore.Proofs.Payload
import RecordStore.Proofs.Search
import RecordStore.Proofs.Timestamp.Text

/-!
# Records as JSON objects

A record has two JSON forms, the flat object of which stored data consists and the one in a
serialized result. They differ in the offset that they write at the end of a timestamp, and in
nothing else. What is read from the two has texts in place of the timestamps, and where there are
timestamps these are different texts: no filter, search or sort takes them for the same.

* `Record.ofJson?_written`, `Record.read?_written` — what is read of a record in a form;
* `Record.serialize_eq_toJson_iff` — when the two forms agree;
* `Record.read_alike_iff` — when records that are read from the two forms are told apart;
* `Record.forms_alike_iff` — the two forms under either of the readers.
-/

namespace RecordStore

/-! ### Searches for one character -/

theorem Search.bestMatch?_singleton_eq_none_iff {q : Char} {s : String} :
    bestMatch? s (String.singleton q) = none ↔
      ∀ c ∈ s.toList, Text.equalIgnoringCase c q = false := by
  have nonempty : String.singleton q ≠ "" := by simp [← String.toList_inj]
  rw [bestMatch?_eq_none_iff nonempty, String.toList_singleton]
  constructor
  · intro none c mem
    obtain ⟨before, after, split⟩ := List.append_of_mem mem
    rw [Bool.eq_false_iff]
    intro same
    exact none before [c] after
      ⟨by rw [split, List.append_assoc]; rfl, .cons (Text.equalIgnoringCase_iff.1 same) .nil⟩
  · rintro differs before found after ⟨split, alike⟩
    cases alike with
    | @cons c _ _ _ same _ =>
      have mem : c ∈ s.toList := by simp [split]
      exact Bool.eq_false_iff.1 (differs c mem) (Text.equalIgnoringCase_iff.2 same)

/-- A search for one visible character finds the fields in which it stands. -/
theorem Search.hits_singleton_eq_nil_iff {q : Char} (visible : Text.isBlank q = false)
    {record : Record} {name s : String} (found : record.fieldValue? name = some (.text s)) :
    hits [record] ⟨String.singleton q, [name]⟩ = [] ↔
      ∀ c ∈ s.toList, Text.equalIgnoringCase c q = false := by
  have active : isActive ⟨String.singleton q, [name]⟩ = true := by
    simp [isActive, Text.isBlankText, visible]
  have query : Text.trim (String.singleton q) = String.singleton q := by
    simp [Text.trim, Text.trimChars, visible]
  rw [hits, if_pos active, ← bestMatch?_singleton_eq_none_iff, query]
  cases best : bestMatch? s (String.singleton q) with
  | none => simp [hit?, occurrences, found, FieldValue.searchableText?, best, bestGrade?]
  | some one => simp [hit?, occurrences, found, FieldValue.searchableText?, best, bestGrade?]

/-! ### The two texts of a timestamp -/

namespace Timestamp

/-- The letter Z is found in the one text of a timestamp only. -/
theorem equalIgnoringCase_of_mem_text {t : Timestamp} {c : Char} (h : c ∈ t.text.toList) :
    Text.equalIgnoringCase c 'Z' = false := by
  have timed : isTimeChar c = true := by
    rw [text, String.toList_ofList] at h
    rcases List.mem_append.1 h with time | offset
    · exact isTimeChar_of_mem_localChars time
    · have marks : ['+', '0', '0', ':', '0', '0'].all isTimeChar = true := by decide
      exact List.all_eq_true.1 marks c offset
  have early : c.toNat < 85 := by
    rcases Bool.or_eq_true_iff.1 timed with digit | mark
    · simp only [Char.isDigit, Bool.and_eq_true, decide_eq_true_eq] at digit
      have upper : c.toNat ≤ 57 := digit.2
      omega
    · have codes : ['-', '+', 'T', ':', '.'].all (·.toNat < 85) = true := by decide
      exact of_decide_eq_true (List.all_eq_true.1 codes c (List.contains_iff_mem.1 mark))
  have others : ∀ n < 85, Text.equalIgnoringCase (Char.ofNat n) 'Z' = false := by decide +kernel
  rw [← Char.ofNat_toNat c]
  exact others _ early

end Timestamp

namespace FieldValue

theorem serialize_eq_toJson_iff (value : FieldValue) :
    value.serialize = value.toJson ↔ ∀ t, value ≠ .instant t := by
  cases value with
  | instant t => simp [serialize, toJson, t.text_ne_zuluText.symm]
  | _ => simp [serialize]

end FieldValue

/-! ### The two forms -/

/-- The fields with other values under the same names. -/
def Fields.mapValues (f : FieldValue → FieldValue) (fields : Fields) : Fields :=
  ⟨Members.mapValues f fields.entries, Members.names_mapValues_nodup fields.nodup f⟩

namespace Record

variable {record : Record}

/-- The flat object whose members, after the identifier, are the fields in a form. -/
def written (form : FieldValue → Json) (record : Record) : Json :=
  .object (("id", .text record.id) :: Members.mapValues form record.fields.entries)

theorem serialize_eq (record : Record) : record.serialize = record.written FieldValue.serialize :=
  rfl

/-- The identifier stands before the fields. -/
theorem members_eq (unnamed : record.get? "id" = none) :
    record.members =
      ("id", .text record.id) :: Members.mapValues FieldValue.toJson record.fields.entries := by
  have distinct : (Members.names ([("id", Json.text record.id)] ++
      Members.mapValues FieldValue.toJson record.fields.entries)).Nodup := by
    rw [List.singleton_append, Members.names_cons, Members.names_mapValues, List.nodup_cons]
    exact ⟨Members.get?_eq_none_iff.1 unnamed, record.fields.nodup⟩
  rw [members, Members.putAll_eq_append distinct, List.singleton_append]

theorem toJson_eq (unnamed : record.get? "id" = none) :
    record.toJson = record.written FieldValue.toJson := by
  rw [toJson, members_eq unnamed, written]

/-- Whether some field is a timestamp. -/
def HasInstant (record : Record) : Prop := ∃ name t, record.get? name = some (.instant t)

theorem values_agree_iff :
    (∀ m ∈ record.fields.entries, m.2.serialize = m.2.toJson) ↔ ¬ record.HasInstant := by
  constructor
  · rintro agree ⟨name, t, found⟩
    have mem := (Members.get?_eq_some_iff record.fields.nodup).1 found
    exact (FieldValue.serialize_eq_toJson_iff _).1 (agree _ mem) t rfl
  · rintro plain ⟨name, value⟩ mem
    refine (FieldValue.serialize_eq_toJson_iff _).2 ?_
    rintro t rfl
    exact plain ⟨name, t, (Members.get?_eq_some_iff record.fields.nodup).2 mem⟩

/-- The two forms of a record agree where no field is a timestamp. -/
theorem serialize_eq_toJson_iff (unnamed : record.get? "id" = none) :
    record.serialize = record.toJson ↔ ¬ record.HasInstant := by
  rw [serialize_eq, toJson_eq unnamed, written, written, ← values_agree_iff]
  simp [Members.mapValues]

/-! ### Reading -/

/-- What a reader of values makes of a record in a form. -/
def reread (form : FieldValue → Json) (read : Json → FieldValue) (record : Record) : Record :=
  ⟨record.id, record.fields.mapValues fun value => read (form value)⟩

theorem get?_reread (form : FieldValue → Json) (read : Json → FieldValue) (record : Record)
    (name : String) :
    (record.reread form read).get? name = (record.get? name).map fun value => read (form value) :=
  Members.get?_mapValues (fun value => read (form value)) name record.fields.entries

/-- No field has the name of the identifier. -/
theorem ne_id_of_mem (unnamed : record.get? "id" = none) {form : FieldValue → Json}
    {m : String × Json} (mem : m ∈ Members.mapValues form record.fields.entries) : m.1 ≠ "id" := by
  intro same
  have named : m.1 ∈ Members.names (Members.mapValues form record.fields.entries) :=
    List.mem_map_of_mem mem
  rw [Members.names_mapValues, same] at named
  exact Members.get?_eq_none_iff.1 unnamed named

theorem filter_ne_id (unnamed : record.get? "id" = none) (form : FieldValue → Json) :
    (("id", Json.text record.id) :: Members.mapValues form record.fields.entries).filter
      (fun m => m.1 != "id") = Members.mapValues form record.fields.entries := by
  rw [List.filter_cons_of_neg (by simp), List.filter_eq_self]
  intro m mem
  simpa using ne_id_of_mem unnamed mem

theorem filter_eq_id (unnamed : record.get? "id" = none) (form : FieldValue → Json) :
    (("id", Json.text record.id) :: Members.mapValues form record.fields.entries).filter
      (fun m => m.1 == "id") = [("id", .text record.id)] := by
  rw [List.filter_cons_of_pos (by simp), List.cons_inj_right, List.filter_eq_nil_iff]
  intro m mem
  simpa using ne_id_of_mem unnamed mem

theorem ofList_mapValues (form : FieldValue → Json) (read : Json → FieldValue) (fields : Fields) :
    Fields.ofList (Members.mapValues read (Members.mapValues form fields.entries)) =
      fields.mapValues fun value => read (form value) := by
  have composed : Members.mapValues read (Members.mapValues form fields.entries) =
      Members.mapValues (fun value => read (form value)) fields.entries := by
    simp [Members.mapValues]
  rw [composed]
  unfold Fields.ofList Fields.mapValues
  simp only [Members.distinct_of_nodup (Members.names_mapValues_nodup fields.nodup _)]

theorem ofJson?_written (unnamed : record.get? "id" = none) (form : FieldValue → Json) :
    ofJson? (record.written form) = some (record.reread form FieldValue.ofJson) := by
  rw [written, ofJson?, filter_ne_id unnamed, ofList_mapValues]
  rfl

theorem read?_written (unnamed : record.get? "id" = none) (form : FieldValue → Json) :
    read? (record.written form) =
      some (record.reread form fun v => FieldValue.read v.distinct) := by
  rw [written, read?, filter_eq_id unnamed, filter_ne_id unnamed]
  exact congrArg (fun fields => some (Record.mk record.id fields))
    (ofList_mapValues form _ record.fields)

/-! ### Telling the two apart -/

variable {read : Json → FieldValue}

theorem get?_reread_instant (texts : ∀ s, read (.text s) = .text s) {name : String} {t : Timestamp}
    (found : record.get? name = some (.instant t)) :
    (record.reread FieldValue.toJson read).get? name = some (.text t.text) ∧
    (record.reread FieldValue.serialize read).get? name = some (.text t.zuluText) := by
  rw [get?_reread, get?_reread, found]
  exact ⟨congrArg some (texts _), congrArg some (texts _)⟩

theorem reread_congr (plain : ¬ record.HasInstant) (read : Json → FieldValue) :
    record.reread FieldValue.serialize read = record.reread FieldValue.toJson read := by
  have values : Members.mapValues (fun value => read value.serialize) record.fields.entries =
      Members.mapValues (fun value => read value.toJson) record.fields.entries :=
    List.map_congr_left fun m mem =>
      congrArg (fun v => (m.1, read v)) (values_agree_iff.2 plain m mem)
  unfold reread Fields.mapValues
  simp only [values]

/-- **When the two forms are told apart.** What is read from the two forms of a record agrees in
every filter, in every search and in the comparison of every field, or in none of these three,
which is so as soon as some field is a timestamp. -/
theorem read_alike_iff (unnamed : record.get? "id" = none)
    (texts : ∀ s, read (.text s) = .text s) :
    ((∀ filter : Filter, filter.matches (record.reread FieldValue.serialize read) =
        filter.matches (record.reread FieldValue.toJson read)) ↔ ¬ record.HasInstant) ∧
    ((∀ spec, Search.hits [record.reread FieldValue.serialize read] spec =
        Search.hits [record.reread FieldValue.toJson read] spec) ↔ ¬ record.HasInstant) ∧
    ((∀ name, FieldValue.compareOptional
        ((record.reread FieldValue.serialize read).fieldValue? name)
        ((record.reread FieldValue.toJson read).fieldValue? name) = .eq) ↔
      ¬ record.HasInstant) := by
  have own {name : String} {t : Timestamp} (found : record.get? name = some (.instant t)) :
      name ≠ "id" := by
    rintro rfl
    exact nomatch unnamed.symm.trans found
  refine ⟨⟨?_, fun plain _ => by rw [reread_congr plain]⟩,
    ⟨?_, fun plain _ => by rw [reread_congr plain]⟩,
    ⟨?_, fun plain _ => by rw [reread_congr plain]; exact Std.ReflCmp.compare_self⟩⟩
  all_goals
    rintro alike ⟨name, t, found⟩
    obtain ⟨long, short⟩ := get?_reread_instant texts found
  · -- a filter for the one text
    have decided := alike ⟨name, .text .equals t.text false⟩
    simp [Filter.matches, fieldValue?, own found, long, short, Filter.matchesValue, Condition.holds,
      FieldValue.asText?, TextOperator.holds, t.text_ne_zuluText.symm] at decided
  · -- a search for the letter that ends the other one
    have visible : Text.isBlank 'Z' = false := by decide
    have named {form : FieldValue → Json} {s : String}
        (held : (record.reread form read).get? name = some (.text s)) :
        (record.reread form read).fieldValue? name = some (.text s) := by
      rw [fieldValue?, if_neg (own found), held]
    have missed := (Search.hits_singleton_eq_nil_iff visible (named long)).2
      fun c mem => Timestamp.equalIgnoringCase_of_mem_text mem
    have last : 'Z' ∈ t.zuluText.toList := by simp [Timestamp.zuluText]
    have hit := (Search.hits_singleton_eq_nil_iff visible (named short)).1
      ((alike _).trans missed) 'Z' last
    exact absurd hit (by decide)
  · have tied := alike name
    rw [fieldValue?, fieldValue?, if_neg (own found), if_neg (own found), long, short] at tied
    exact t.text_ne_zuluText.symm (Text.compare_eq_iff.1 tied)

/-- **The two JSON forms of a record.** They are equal just if no field is a timestamp. Both can be
read, by either reader, and give the identifier and the fields of the record, but in place of a
timestamp the text in which the form writes it; and they filter, search and sort alike just if no
field is a timestamp. -/
theorem forms_alike_iff (unnamed : record.get? "id" = none) :
    (record.serialize = record.toJson ↔ ¬ record.HasInstant) ∧
    ∀ reader ∈ [ofJson?, read?], ∃ long short,
      reader record.toJson = some long ∧ reader record.serialize = some short ∧
      long.id = record.id ∧ short.id = record.id ∧
      (∀ name, short.get? name =
        match record.get? name with
        | some (.instant t) => some (.text t.zuluText)
        | _ => long.get? name) ∧
      ((∀ filter : Filter, filter.matches short = filter.matches long) ↔ ¬ record.HasInstant) ∧
      ((∀ spec, Search.hits [short] spec = Search.hits [long] spec) ↔ ¬ record.HasInstant) ∧
      ((∀ name, FieldValue.compareOptional (short.fieldValue? name) (long.fieldValue? name) = .eq) ↔
        ¬ record.HasInstant) := by
  refine ⟨serialize_eq_toJson_iff unnamed, fun reader mem => ?_⟩
  obtain ⟨read, texts, reads⟩ : ∃ read : Json → FieldValue, (∀ s, read (.text s) = .text s) ∧
      ∀ form, reader (record.written form) = some (record.reread form read) := by
    rcases List.mem_pair.1 mem with rfl | rfl
    · exact ⟨FieldValue.ofJson, fun _ => rfl, ofJson?_written unnamed⟩
    · exact ⟨fun v => FieldValue.read v.distinct, fun _ => rfl, read?_written unnamed⟩
  refine ⟨record.reread FieldValue.toJson read, record.reread FieldValue.serialize read,
    toJson_eq unnamed ▸ reads _, serialize_eq record ▸ reads _, rfl, rfl, fun name => ?_,
    read_alike_iff unnamed texts⟩
  cases found : record.get? name with
  | none =>
    rw [get?_reread, get?_reread, found]
    rfl
  | some value =>
    cases value with
    | instant t => exact (get?_reread_instant texts found).2
    | _ =>
      rw [get?_reread, get?_reread, found]
      rfl

/-- A record with one timestamp, the tenth hour of the first of May 2024. -/
def stamped : Record := (new "a").set "t" (.instant (.ofSeconds 1714557600))

theorem stamped_forms_told_apart :
    stamped.get? "id" = none ∧ stamped.serialize ≠ stamped.toJson ∧
      ∀ reader ∈ [ofJson?, read?], ∃ long short,
        reader stamped.toJson = some long ∧ reader stamped.serialize = some short ∧
        ¬ ∀ filter : Filter, filter.matches short = filter.matches long := by
  have instant : stamped.HasInstant := ⟨"t", _, rfl⟩
  obtain ⟨forms, readings⟩ := @forms_alike_iff stamped rfl
  refine ⟨rfl, fun same => forms.1 same instant, fun reader mem => ?_⟩
  obtain ⟨long, short, read, read', -, -, -, filters, -⟩ := readings reader mem
  exact ⟨long, short, read, read', fun same => filters.1 same instant⟩

/-- A filter for the text of the timestamp keeps the record and what is read from the one form, and
not what is read from the other one. -/
theorem two_forms_of_stamped :
    stamped.toJson = .object [("id", .text "a"), ("t", .text "2024-05-01T10:00:00+00:00")] ∧
    stamped.serialize = .object [("id", .text "a"), ("t", .text "2024-05-01T10:00:00Z")] ∧
    stamped.serialize ≠ stamped.toJson ∧
    ∃ long short filter, ofJson? stamped.toJson = some long ∧
      ofJson? stamped.serialize = some short ∧ Filter.matches filter stamped = true ∧
      Filter.matches filter long = true ∧ Filter.matches filter short = false := by
  have long : stamped.toJson =
      .object [("id", .text "a"), ("t", .text "2024-05-01T10:00:00+00:00")] := rfl
  have short : stamped.serialize =
      .object [("id", .text "a"), ("t", .text "2024-05-01T10:00:00Z")] := rfl
  refine ⟨long, short, ?_, _, _, ⟨"t", .text .equals "2024-05-01T10:00:00+00:00" false⟩, rfl, rfl,
    rfl, rfl, rfl⟩
  rw [long, short]
  simp

end Record

end RecordStore
