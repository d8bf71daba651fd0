import RecordStore.Proofs.Error
import RecordStore.Proofs.Text.Blank
import RecordStore.Sort

/-!
# Sort expressions

An expression lists its entries between commas, white space around them and blank entries left out.
An entry is the name of a field, alone or with a direction behind the first colon, and then there
may be white space around both.

* `Text.listed` — what a text lists between commas;
* `SortSpec.EntryDenotes` — the keys that entries denote;
* `SortSpec.parse_eq_ok_iff` — just the lists of such entries are read;
* `SortSpec.isBlankText_of_denoted` — every key has a field.
-/

namespace RecordStore

/-! ### Separators -/

namespace Text

/-- What a text lists: its parts between commas, without white space around them and without blank
ones. -/
def listed (s : String) : List String :=
  ((splitCommas s).map trim).filter fun part => !part.isEmpty

theorem mem_listed_iff {s part : String} :
    part ∈ listed s ↔ ∃ p ∈ splitCommas s, isBlankText p = false ∧ trim p = part := by
  rw [listed, List.mem_filter, List.mem_map, Bool.not_eq_true', ← Bool.not_eq_true,
    String.isEmpty_iff]
  constructor
  · rintro ⟨⟨p, mem, rfl⟩, visible⟩
    exact ⟨p, mem, (Bool.not_eq_true _).mp (mt isBlankText_iff.1 visible), rfl⟩
  · rintro ⟨p, mem, visible, rfl⟩
    refine ⟨⟨p, mem, rfl⟩, fun none => ?_⟩
    rw [isBlankText_iff.2 none] at visible
    cases visible

theorem isBlankText_of_mem_listed {s part : String} (mem : part ∈ listed s) :
    isBlankText part = false := by
  obtain ⟨p, -, visible, rfl⟩ := mem_listed_iff.1 mem
  rw [isBlankText_trim, visible]

theorem splitColon_eq_none {s : String} (whole : ':' ∉ s.toList) : splitColon s = none := by
  have none : s.toList.dropWhile (· != ':') = [] :=
    List.dropWhile_eq_nil_iff.2 fun c mem => by
      rw [bne_iff_ne]
      rintro rfl
      exact whole mem
  rw [splitColon, none]

theorem splitColon_append {front : String} (first : ':' ∉ front.toList) (behind : String) :
    splitColon (front ++ ":" ++ behind) = some (front, behind) := by
  have before : ∀ c ∈ front.toList, (c != ':') = true := by
    intro c mem
    rw [bne_iff_ne]
    rintro rfl
    exact first mem
  have chars : (front ++ ":" ++ behind).toList = front.toList ++ ':' :: behind.toList := by
    simp [String.toList_append]
  rw [splitColon, chars, List.dropWhile_append_of_pos before, List.takeWhile_append_of_pos before]
  simp

/-- A text is split at its first colon. -/
theorem splitColon_cases (s : String) :
    ':' ∉ s.toList ∨ ∃ front behind, ':' ∉ front.toList ∧ s = front ++ ":" ++ behind := by
  by_cases colon : ':' ∈ s.toList
  · obtain ⟨front, behind, chars, first⟩ := List.eq_append_cons_of_mem colon
    refine .inr ⟨String.ofList front, String.ofList behind, by rwa [String.toList_ofList], ?_⟩
    rw [← String.toList_inj, chars]
    simp [String.toList_append]
  · exact .inl colon

end Text

/-! ### Entries -/

namespace SortSpec

/-- The key that an entry denotes: the name of a field, in ascending order, or one with a direction
behind the first colon. -/
inductive EntryDenotes : String → SortKey → Prop
  | plain {entry : String} (whole : ':' ∉ entry.toList) (named : entry ≠ "") :
      EntryDenotes entry ⟨entry, .ascending⟩
  | directed {field name : String} {direction : SortDirection} (first : ':' ∉ field.toList)
      (named : Text.isBlankText field = false)
      (known : direction? (Text.trim name) = some direction) :
      EntryDenotes (field ++ ":" ++ name) ⟨Text.trim field, direction⟩

variable {entry expression : String} {key : SortKey} {keys : SortSpec}

theorem parseEntry_of_whole (whole : ':' ∉ entry.toList) :
    parseEntry entry =
      if entry = "" then .error QueryFault.emptySortField.error else .ok ⟨entry, .ascending⟩ := by
  rw [parseEntry, Text.splitColon_eq_none whole]
  simp only [String.isEmpty_iff]

theorem parseEntry_append {field : String} (first : ':' ∉ field.toList) (name : String) :
    parseEntry (field ++ ":" ++ name) =
      match direction? (Text.trim name) with
      | none => .error (QueryFault.unknownDirection (Text.asciiLowercase (Text.trim name))
          field).error
      | some direction =>
        if Text.isBlankText field then .error QueryFault.emptySortField.error
        else .ok ⟨Text.trim field, direction⟩ := by
  rw [parseEntry, Text.splitColon_append first]
  dsimp only
  cases direction? (Text.trim name) with
  | none => rfl
  | some direction => simp only [String.isEmpty_iff, Text.isBlankText_iff]

theorem parseEntry_eq_ok_iff : parseEntry entry = .ok key ↔ EntryDenotes entry key := by
  constructor
  · intro read
    obtain whole | ⟨field, name, first, rfl⟩ := Text.splitColon_cases entry
    · rw [parseEntry_of_whole whole] at read
      split at read
      · cases read
      · next named =>
        cases read
        exact .plain whole named
    · rw [parseEntry_append first] at read
      split at read
      · cases read
      · next direction known =>
        split at read
        · cases read
        · next named =>
          cases read
          exact .directed first ((Bool.not_eq_true _).mp named) known
  · rintro (⟨whole, named⟩ | ⟨first, named, known⟩)
    · rw [parseEntry_of_whole whole, if_neg named]
    · rw [parseEntry_append first, known]
      simp [named]

theorem failsOnlyWith_parseEntry (entry : String) :
    FailsOnlyWith StoreError.IsInvalidQuery (parseEntry entry) := by
  obtain whole | ⟨field, name, first, rfl⟩ := Text.splitColon_cases entry
  · rw [parseEntry_of_whole whole]
    split
    · exact .of_error (QueryFault.isInvalidQuery_error _)
    · exact .of_ok _
  · rw [parseEntry_append first]
    split
    · exact .of_error (QueryFault.isInvalidQuery_error _)
    · split
      · exact .of_error (QueryFault.isInvalidQuery_error _)
      · exact .of_ok _

/-! ### Expressions -/

theorem parseEntries_eq_mapM (entries : List String) :
    parseEntries entries = entries.mapM parseEntry := by
  induction entries with
  | nil => rfl
  | cons entry rest ih =>
    rw [parseEntries, List.mapM_cons, ih]
    rfl

/-- Just the expressions whose entries all denote a key are read, as these keys in their order. -/
theorem parse_eq_ok_iff :
    parse expression = .ok keys ↔ List.Forall₂ EntryDenotes (Text.listed expression) keys := by
  rw [parse, ← Text.listed, parseEntries_eq_mapM, mapM_eq_ok_iff]
  simp only [parseEntry_eq_ok_iff]

theorem failsOnlyWith_parse (expression : String) :
    FailsOnlyWith StoreError.IsInvalidQuery (parse expression) := by
  rw [parse, parseEntries_eq_mapM]
  exact FailsOnlyWith.mapM failsOnlyWith_parseEntry _

/-- Every key of an expression has a field. -/
theorem isBlankText_of_denoted
    (denoted : List.Forall₂ EntryDenotes (Text.listed expression) keys) :
    ∀ key ∈ keys, Text.isBlankText key.field = false := by
  intro key mem
  obtain ⟨entry, listed, denotes⟩ := exists_mem_of_forall₂ denoted key mem
  cases denotes with
  | plain whole named => exact Text.isBlankText_of_mem_listed listed
  | directed first named known => rw [Text.isBlankText_trim, named]

end SortSpec

end RecordStore
