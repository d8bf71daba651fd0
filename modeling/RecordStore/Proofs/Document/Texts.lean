import RecordStore.Proofs.Document.Numbers
import RecordStore.Proofs.List.Candidates
import RecordStore.Proofs.Text.Fold

/-!
# Texts in documents

A filter that ignores case compares lowercase forms, the pattern of its condition compares
characters after folding. Folding identifies more than lowercasing does, so that a pattern misses no
match, but for the dotted capital I, which folds to itself and has two characters in lowercase. In a
negated pattern it is the other way round: there folding must not identify too much.

* `Condition.FoldsAlike` — texts on which folding and lowercasing agree as far as is needed;
* `TextOperator.holds_of_relates` — the test of an operator;
* `Filter.holds_of_matches` — no record that a filter matches is missed by its condition;
* `Filter.matches_ofDocument_of_text` — a filter for texts matches what is read back of a record if it
  matches the record;
* `ListParams.execute_selected` — the list made from what the conditions select.
-/

namespace RecordStore

open Text (fold lowerChar)

/-! ### Tests on texts -/

/-- Whether folding does for a filter that ignores case what lowercasing does, on a text `s`. A
pattern must not be about a dotted capital I, and a negated pattern not about a capital sigma, of
which the lowercase form depends on its place, nor about letters that only folding identifies. -/
def Condition.FoldsAlike : Condition → String → Prop
  | .text .notEquals operand true, s =>
    'Σ' ∉ s.toList ∧ 'Σ' ∉ operand.toList ∧
      ∀ c ∈ s.toList, ∀ d ∈ operand.toList, fold c = fold d → lowerChar c = lowerChar d
  | .text _ operand true, s => 'İ' ∉ s.toList ∧ 'İ' ∉ operand.toList
  | _, _ => True

namespace TextOperator

variable {operator : TextOperator} {operand s : String}

theorem fits_text (pattern : TextPattern) (fold : Char → Char) (s : String) :
    (DocumentTest.fits pattern).holds fold (some (.text s)) = pattern.admits fold s := rfl

theorem fitsNot_text (pattern : TextPattern) (fold : Char → Char) (s : String) :
    (DocumentTest.fitsNot pattern).holds fold (some (.text s)) = !pattern.admits fold s := rfl

/-- With regard to case the test of an operator is the operator. -/
theorem holds_of_relates_exactly (related : operator.relates false s operand = true) :
    (operator.documentTest operand false).holds fold (some (.text s)) = true := by
  cases operator <;> exact related

/-- A pattern that ignores case fits a text if the lowercase forms are related. -/
theorem holds_of_relates_folded (positive : operator ≠ .notEquals) (undotted : 'İ' ∉ s.toList)
    (undotted' : 'İ' ∉ operand.toList) (related : operator.relates true s operand = true) :
    (operator.documentTest operand true).holds fold (some (.text s)) = true := by
  have text := Text.map_fold_lowercase undotted
  have literal := Text.map_fold_lowercase undotted'
  cases operator with
  | notEquals => exact absurd rfl positive
  | equals =>
    have same : Text.lowercase s = Text.lowercase operand := beq_iff_eq.1 related
    rw [documentTest, fits_text]
    refine beq_iff_eq.2 ?_
    change s.toList.map fold = operand.toList.map fold
    rw [← text, ← literal, same]
  | contains =>
    have part := (Text.occursIn_iff_isInfix.1 related).map fold
    rw [text, literal] at part
    exact Text.occursIn_iff_isInfix.2 part
  | startsWith =>
    have part := (List.isPrefixOf_iff_prefix.1 related).map fold
    rw [text, literal] at part
    exact List.isPrefixOf_iff_prefix.2 part
  | endsWith =>
    have part := (List.isSuffixOf_iff_suffix.1 related).map fold
    rw [text, literal] at part
    exact List.isSuffixOf_iff_suffix.2 part

/-- A text that folds like the operand has its lowercase form. -/
theorem holds_of_differs_folded (alike : (Condition.text .notEquals operand true).FoldsAlike s)
    (related : notEquals.relates true s operand = true) :
    (notEquals.documentTest operand true).holds fold (some (.text s)) = true := by
  obtain ⟨noSigma, noSigma', letters⟩ := alike
  have differ : Text.lowercase s ≠ Text.lowercase operand := bne_iff_ne.1 related
  rw [documentTest, fitsNot_text, Bool.not_eq_true']
  by_contra fits
  have folded : s.toList.map fold = operand.toList.map fold := by
    simpa [TextPattern.admits] using fits
  exact differ (Text.lowercase_eq_of_map_fold_eq noSigma noSigma' letters folded)

/-- The test of an operator holds of a text that stands in the relation. -/
theorem holds_of_relates {ignoreCase : Bool}
    (alike : (Condition.text operator operand ignoreCase).FoldsAlike s)
    (related : operator.relates ignoreCase s operand = true) :
    (operator.documentTest operand ignoreCase).holds fold (some (.text s)) = true := by
  cases ignoreCase with
  | false => exact holds_of_relates_exactly related
  | true =>
    cases operator with
    | notEquals => exact holds_of_differs_folded alike related
    | _ => exact holds_of_relates_folded nofun alike.1 alike.2 related

end TextOperator

/-! ### Filters -/

namespace Filter

variable {filter : Filter} {record back : Record} {tenant : Tenant} {document : BsonDocument}

/-- Whether a database and a filter see the field of a document alike. -/
def SeenAlike (filter : Filter) (document : BsonDocument) : Prop :=
  ∀ value, documentField? document filter.field = some value →
    filter.condition.SeesAsRead value ∧ ∀ s, value = .text s → filter.condition.FoldsAlike s

/-- The tests of a filter hold of a value if the filter matches what is read from it. -/
theorem all_tests_of_holds {value : Bson} (valid : filter.kind ≠ .text → filter.validate = .ok ())
    (seen : filter.condition.SeesAsRead value)
    (alike : ∀ s, value = .text s → filter.condition.FoldsAlike s)
    (holds : filter.condition.holds (.ofJson value.relaxed) = true) :
    filter.documentCondition.tests.all (·.holds fold (some value)) = true := by
  by_cases scalar : filter.kind ≠ .text
  · exact (all_tests_some (valid scalar) scalar seen).2 holds
  · obtain ⟨field, condition⟩ := filter
    cases condition with
    | text operator operand ignoreCase =>
      obtain ⟨s, written, related⟩ := Condition.holds_text_ofJson_iff.1 holds
      obtain rfl := Bson.relaxed_eq_text_iff.1 written
      have isText : (DocumentTest.typeIs .string).holds fold (some (.text s)) = true := rfl
      have test := TextOperator.holds_of_relates (alike s rfl) related
      simp [documentCondition, isText, test]
    | _ => exact absurd nofun scalar

/-- No record that a filter matches is missed by the condition of the filter. -/
theorem holds_of_matches (valid : filter.kind ≠ .text → filter.validate = .ok ())
    (undotted : '.' ∉ filter.field.toList) (written : record.document tenant = .ok document)
    (alike : filter.SeenAlike document) (read : Record.ofDocument document = .ok back)
    (fits : filter.matches back = true) : filter.documentCondition.holds fold document = true := by
  obtain ⟨other, same, fields⟩ := Record.exists_ofDocument written
  obtain rfl : other = back := Except.ok.inj (same.symm.trans read)
  obtain ⟨value, found, holds⟩ := matches_iff.1 fits
  rw [fields filter.field undotted, Option.map_eq_some_iff] at found
  obtain ⟨stored, field, rfl⟩ := found
  obtain ⟨seen, texts⟩ := alike stored field
  rw [holds_documentCondition, field]
  exact all_tests_of_holds valid seen texts holds

/-- A filter for texts that matches a record also matches what is read back of it. -/
theorem matches_ofDocument_of_text (forText : filter.kind = .text)
    (written : record.document tenant = .ok document) (read : Record.ofDocument document = .ok back)
    (fits : filter.matches record = true) : filter.matches back = true := by
  obtain ⟨field, condition⟩ := filter
  cases condition with
  | text operator operand ignoreCase =>
    obtain ⟨value, held, holds⟩ := matches_iff.1 fits
    obtain ⟨s, isText, related⟩ := Condition.holds_text_iff.1 holds
    have text : (record.fieldValue? field).bind FieldValue.asText? = some s := by
      rw [held]
      exact isText
    have same := Record.fieldValue?_ofDocument_of_text written read text
    exact matches_iff.2 ⟨_, same, Condition.holds_text_iff.2 ⟨s, rfl, related⟩⟩
  | _ => exact nomatch forText

end Filter

/-! ### Lists -/

/-- The record of a document, where it has one. -/
def recordOf (document : BsonDocument) : Record :=
  match Record.ofDocument document with
  | .ok record => record
  | .error _ => default

theorem mapM_ofDocument {documents : List BsonDocument}
    (readable : ∀ document ∈ documents, ∃ back, Record.ofDocument document = .ok back) :
    documents.mapM Record.ofDocument = .ok (documents.map recordOf) := by
  induction documents with
  | nil => rfl
  | cons document rest ih =>
    obtain ⟨⟨back, read⟩, others⟩ := List.forall_mem_cons.1 readable
    rw [List.mapM_cons, read, ih others, List.map_cons, recordOf, read]
    rfl

/-- Whether the conditions of all filters hold of a document. -/
def FilterSet.holdsOf (filters : FilterSet) (document : BsonDocument) : Bool :=
  filters.all fun filter => filter.documentCondition.holds fold document

/-- What the conditions of the filters select contains every record that the filters match as it is
read back, and what a filter for texts matches before it is written it also matches then. The list
made from what is selected, in whatever order it is handed over, is the list made from all
records. -/
theorem ListParams.execute_selected {params : ListParams} {tenant : Tenant}
    {documents : List BsonDocument}
    (valid : ∀ filter ∈ params.filters, filter.kind ≠ .text → filter.validate = .ok ())
    (undotted : ∀ filter ∈ params.filters, '.' ∉ filter.field.toList)
    (written : ∀ document ∈ documents, ∃ record : Record, record.document tenant = .ok document)
    (alike : ∀ filter ∈ params.filters, ∀ document ∈ documents, filter.SeenAlike document) :
    (∀ document ∈ documents, ∃ back, Record.ofDocument document = .ok back ∧
      ∀ filter ∈ params.filters,
        (filter.matches back = true → filter.documentCondition.holds fold document = true) ∧
        ∀ record : Record, record.document tenant = .ok document → filter.kind = .text →
          filter.matches record = true → filter.matches back = true) ∧
      ∃ records, documents.mapM Record.ofDocument = .ok records ∧
        ((records.map Record.id).Nodup →
          (∀ key ∈ params.sort, SortSpec.Ordered {record | record ∈ records} key) →
          ∀ fetched : List BsonDocument,
            fetched.Perm (documents.filter (FilterSet.holdsOf params.filters)) →
            ∃ candidates, fetched.mapM Record.ofDocument = .ok candidates ∧
              ∃ listed, ListResult.execute? candidates params = some listed ∧
                ListResult.execute? records params = some listed) := by
  have readable (document : BsonDocument) (mem : document ∈ documents) :
      Record.ofDocument document = .ok (recordOf document) := by
    obtain ⟨record, stored⟩ := written document mem
    obtain ⟨back, read, -⟩ := Record.exists_ofDocument stored
    rw [read, recordOf, read]
  have kept (document : BsonDocument) (mem : document ∈ documents) (filter : Filter)
      (among : filter ∈ params.filters) (fits : filter.matches (recordOf document) = true) :
      filter.documentCondition.holds fold document = true := by
    obtain ⟨record, stored⟩ := written document mem
    exact Filter.holds_of_matches (valid filter among) (undotted filter among) stored
      (alike filter among document mem) (readable document mem) fits
  refine ⟨fun document mem => ⟨_, readable document mem, fun filter among =>
    ⟨kept document mem filter among, fun record stored forText fits =>
      Filter.matches_ofDocument_of_text forText stored (readable document mem) fits⟩⟩, ?_⟩
  refine ⟨documents.map recordOf, mapM_ofDocument fun d mem => ⟨_, readable d mem⟩, ?_⟩
  intro distinct ordered fetched perm
  have fromTable {document : BsonDocument} (mem : document ∈ fetched) : document ∈ documents :=
    List.mem_of_mem_filter (perm.subset mem)
  refine ⟨fetched.map recordOf, mapM_ofDocument fun d mem => ⟨_, readable d (fromTable mem)⟩, ?_⟩
  have chosen : (fetched.map recordOf).Subperm (documents.map recordOf) :=
    (perm.map recordOf).subperm.trans (List.filter_sublist.map recordOf).subperm
  have complete : ∀ record ∈ documents.map recordOf,
      FilterSet.matches params.filters record = true → record ∈ fetched.map recordOf := by
    intro record mem fits
    obtain ⟨document, among, rfl⟩ := List.mem_map.1 mem
    refine List.mem_map_of_mem (perm.symm.subset (List.mem_filter.2 ⟨among, ?_⟩))
    rw [FilterSet.matches, List.all_eq_true] at fits
    rw [FilterSet.holdsOf, List.all_eq_true]
    exact fun filter mem => kept document among filter mem (fits filter mem)
  obtain ⟨listed, whole⟩ := ListResult.exists_execute? distinct ordered
  have same := ListResult.execute?_of_candidates distinct ordered chosen complete
  exact ⟨listed, same.trans whole, whole⟩

/-- A record with a title. -/
def titled (id title : String) : Record := ⟨id, .ofList [("title", .text title)]⟩

/-- The document of a record with a title. -/
def titledDocument (id title : String) : BsonDocument :=
  [("_id", .text (documentKey ⟨"t"⟩ id)), ("tenant_id", .text "t"), ("id", .text id),
    ("fields", .document [("title", .text title)])]

/-- It can be computed whether a negated pattern may be used. -/
theorem Condition.foldsAlike_notEquals {operand s : String} (noSigma : 'Σ' ∉ s.toList)
    (noSigma' : 'Σ' ∉ operand.toList)
    (letters : (s.toList.all fun c => operand.toList.all fun d =>
      !(fold c == fold d) || lowerChar c == lowerChar d) = true) :
    (Condition.text .notEquals operand true).FoldsAlike s := by
  refine And.intro noSigma (And.intro noSigma' fun c memC d memD same => ?_)
  have pair := List.all_eq_true.1 (List.all_eq_true.1 letters c memC) d memD
  simpa [same] using pair

theorem Filter.seenAlike_titled {operator : TextOperator} {operand id title : String}
    (folds : (Condition.text operator operand true).FoldsAlike title) :
    Filter.SeenAlike ⟨"title", .text operator operand true⟩ (titledDocument id title) := by
  have field : documentField? (titledDocument id title) "title" = some (.text title) := by
    rw [documentField?, pathNames_fieldPath (by decide), if_neg (by decide)]
    rfl
  intro value stored
  obtain rfl : Bson.text title = value := Option.some.inj (field.symm.trans stored)
  refine ⟨trivial, fun s same => ?_⟩
  cases same
  exact folds

/-- Anger in all its forms but the word itself. -/
def angry : ListParams where
  filters := [⟨"title", .text .contains "ärger" true⟩, ⟨"title", .text .notEquals "ÄRGER" true⟩]
  sort := []
  search := none
  page := .unpaged

/-- The documents of three records. -/
def moods : List BsonDocument :=
  [titledDocument "a" "Ärger", titledDocument "b" "ÄRGERNIS", titledDocument "c" "Öl"]

theorem execute_angry :
    ∃ records candidates, moods.mapM Record.ofDocument = .ok records ∧
      (moods.filter (FilterSet.holdsOf angry.filters)).mapM Record.ofDocument = .ok candidates ∧
      ∃ listed, ListResult.execute? candidates angry = some listed ∧
        ListResult.execute? records angry = some listed := by
  have written : ∀ document ∈ moods, ∃ record : Record, record.document ⟨"t"⟩ = .ok document :=
    List.forall_mem_cons.2 ⟨⟨titled "a" "Ärger", rfl⟩, List.forall_mem_cons.2
      ⟨⟨titled "b" "ÄRGERNIS", rfl⟩, List.forall_mem_singleton.2 ⟨titled "c" "Öl", rfl⟩⟩⟩
  have alike : ∀ filter ∈ angry.filters, ∀ document ∈ moods, filter.SeenAlike document := by
    intro filter among document mem
    simp only [angry, moods, List.mem_cons, List.not_mem_nil, or_false] at among mem
    rcases among with rfl | rfl <;> rcases mem with rfl | rfl | rfl
    · exact Filter.seenAlike_titled (And.intro (by decide) (by decide))
    · exact Filter.seenAlike_titled (And.intro (by decide) (by decide))
    · exact Filter.seenAlike_titled (And.intro (by decide) (by decide))
    · exact Filter.seenAlike_titled
        (Condition.foldsAlike_notEquals (by decide) (by decide) (by decide +kernel))
    · exact Filter.seenAlike_titled
        (Condition.foldsAlike_notEquals (by decide) (by decide) (by decide +kernel))
    · exact Filter.seenAlike_titled
        (Condition.foldsAlike_notEquals (by decide) (by decide) (by decide +kernel))
  obtain ⟨-, records, read, lists⟩ := @ListParams.execute_selected angry ⟨"t"⟩ moods
    (List.forall_mem_cons.2 ⟨nofun, List.forall_mem_singleton.2 nofun⟩)
    (List.forall_mem_cons.2 ⟨by decide, List.forall_mem_singleton.2 (by decide)⟩) written alike
  have distinct : (records.map Record.id).Nodup := by
    cases read
    decide
  obtain ⟨candidates, fetched, same⟩ := lists distinct nofun _ (.refl _)
  exact ⟨records, candidates, read, fetched, same⟩

/-- Whether a filter matches what is read back of a record while its condition does not hold of the
document. -/
def Filter.Misses (filter : Filter) (record : Record) : Prop :=
  ∃ document back, record.document ⟨"t"⟩ = .ok document ∧ Record.ofDocument document = .ok back ∧
    filter.matches back = true ∧ filter.documentCondition.holds fold document = false

theorem folding_misses :
    -- the lowercase form of the dotted capital I begins with an i
    Filter.Misses ⟨"title", .text .contains "i" true⟩ (titled "a" "İ") ∧
      -- only folding takes the long s for an s, and the final sigma for another one
      Filter.Misses ⟨"title", .text .notEquals "s" true⟩ (titled "b" "ſ") ∧
      Filter.Misses ⟨"title", .text .notEquals "οδοσ" true⟩ (titled "c" "ΟΔΟΣ") := by
  refine ⟨⟨_, _, rfl, rfl, ?_⟩, ⟨_, _, rfl, rfl, ?_⟩, ⟨_, _, rfl, rfl, ?_⟩⟩
  all_goals decide +kernel

end RecordStore
