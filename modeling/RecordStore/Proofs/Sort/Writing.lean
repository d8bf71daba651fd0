import RecordStore.Proofs.Sort.Expression

/-!
# Writing sort keys

The same keys can be written in many ways: with white space around the fields, the directions and
the entries, with the directions in letters of either case or left out where they are ascending, and
with blank entries in between. All of these are read as the keys, and nothing else is read at all.

* `SortSpec.Written` — the ways to write keys, and `SortSpec.render` — the plain way;
* `SortSpec.direction?_eq_some_iff` — the names of the directions;
* `SortSpec.entryDenotes_trim_iff`, `SortSpec.parse_eq_ok_iff_written` — what is read is what has
  been written;
* `SortSpec.parse_reads_writing` — reading and writing, and the expressions that are refused.
-/

namespace RecordStore

/-! ### Letters of either case -/

namespace Text

/-- Whether a text is a word of small letters, some of them written as capitals. -/
def IsCasing (word s : String) : Prop :=
  List.Forall₂ (fun letter c => c = letter ∨ c = letter.toUpper) word.toList s.toList

instance (word s : String) : Decidable (IsCasing word s) :=
  inferInstanceAs (Decidable (List.Forall₂ _ _ _))

theorem exists_of_isLower {letter : Char} (small : letter.isLower = true) :
    ∃ n < 26, letter = Char.ofNat (97 + n) := by
  have bounds : 97 ≤ letter.toNat ∧ letter.toNat ≤ 122 :=
    (Bool.and_eq_true_iff.1 small).imp of_decide_eq_true of_decide_eq_true
  refine ⟨letter.toNat - 97, by omega, ?_⟩
  rw [Nat.add_sub_cancel' bounds.1, Char.ofNat_toNat]

theorem exists_of_isUpper {c : Char} (large : 'A' ≤ c ∧ c ≤ 'Z') :
    ∃ n < 26, c = Char.ofNat (65 + n) := by
  have bounds : 65 ≤ c.toNat ∧ c.toNat ≤ 90 := large
  refine ⟨c.toNat - 65, by omega, ?_⟩
  rw [Nat.add_sub_cancel' bounds.1, Char.ofNat_toNat]

theorem asciiLowercase_char_iff {letter : Char} (small : letter.isLower = true) (c : Char) :
    (if 'A' ≤ c ∧ c ≤ 'Z' then Char.ofNat (c.toNat + 32) else c) = letter ↔
      c = letter ∨ c = letter.toUpper := by
  obtain ⟨n, hn, rfl⟩ := exists_of_isLower small
  split
  · next large =>
    obtain ⟨m, hm, rfl⟩ := exists_of_isUpper large
    have table : ∀ m < 26, ∀ n < 26,
        (Char.ofNat ((Char.ofNat (65 + m)).toNat + 32) = Char.ofNat (97 + n) ↔
          Char.ofNat (65 + m) = Char.ofNat (97 + n) ∨
            Char.ofNat (65 + m) = (Char.ofNat (97 + n)).toUpper) := by decide
    exact table m hm n hn
  · next other =>
    have capital : ∀ n < 26, 'A' ≤ (Char.ofNat (97 + n)).toUpper ∧
        (Char.ofNat (97 + n)).toUpper ≤ 'Z' := by decide
    refine ⟨.inl, fun same => same.resolve_right ?_⟩
    rintro rfl
    exact other (capital n hn)

/-- The texts that become a word of small letters in lower case. -/
theorem asciiLowercase_eq_iff {word s : String} (small : ∀ c ∈ word.toList, c.isLower = true) :
    asciiLowercase s = word ↔ IsCasing word s := by
  rw [asciiLowercase, ← String.toList_inj, String.toList_ofList, IsCasing]
  generalize word.toList = letters at small ⊢
  generalize s.toList = cs
  induction letters generalizing cs with
  | nil => simp
  | cons letter rest ih =>
    rw [List.forall_mem_cons] at small
    cases cs with
    | nil => simp
    | cons c cs =>
      rw [List.map_cons, List.cons.injEq, asciiLowercase_char_iff small.1, ih small.2,
        List.forall₂_cons]

/-! ### Lists between commas -/

/-- No part has the separator in it. -/
theorem notMem_of_mem_splitOn {α : Type} [DecidableEq α] {separator : α} {xs part : List α}
    (mem : part ∈ xs.splitOn separator) : separator ∉ part := by
  induction xs generalizing part with
  | nil =>
    rw [List.splitOn_nil, List.mem_singleton] at mem
    rw [mem]
    exact List.not_mem_nil
  | cons x rest ih =>
    rw [List.splitOn_cons_eq_if_modifyHead] at mem
    split at mem
    · rcases List.mem_cons.1 mem with rfl | later
      · exact List.not_mem_nil
      · exact ih later
    · next other =>
      obtain ⟨first, others, split⟩ := List.exists_cons_of_ne_nil (List.splitOn_ne_nil separator rest)
      rw [split, List.modifyHead_cons] at mem
      rcases List.mem_cons.1 mem with rfl | later
      · rw [List.mem_cons, not_or]
        exact ⟨fun same => other (beq_iff_eq.2 same.symm), ih (split ▸ List.mem_cons_self)⟩
      · exact ih (split ▸ List.mem_cons_of_mem _ later)

theorem notMem_of_mem_splitCommas {s part : String} (mem : part ∈ splitCommas s) :
    ',' ∉ part.toList := by
  obtain ⟨chars, known, rfl⟩ := List.mem_map.1 mem
  rw [String.toList_ofList]
  exact notMem_of_mem_splitOn known

theorem joinWith_splitCommas (s : String) : joinWith "," (splitCommas s) = s := by
  have chars : (splitCommas s).map String.toList = s.toList.splitOn ',' := by
    simp [splitCommas, Function.comp_def]
  rw [joinWith, ← String.toList_inj, String.toList_intercalate, chars]
  exact List.intercalate_splitOn ','

theorem splitCommas_joinWith {parts : List String} (nonempty : parts ≠ [])
    (whole : ∀ part ∈ parts, ',' ∉ part.toList) : splitCommas (joinWith "," parts) = parts := by
  have split : ([','].intercalate (parts.map String.toList)).splitOn ',' =
      parts.map String.toList :=
    List.splitOn_intercalate ',' (List.forall_mem_map.2 whole) (by simpa using nonempty)
  rw [splitCommas, joinWith, String.toList_intercalate]
  exact (congrArg (List.map String.ofList) split).trans (by simp [Function.comp_def])

/-- What is listed by parts that are joined with commas. -/
theorem listed_joinWith {parts : List String} (whole : ∀ part ∈ parts, ',' ∉ part.toList) :
    listed (joinWith "," parts) = (parts.map trim).filter fun part => !part.isEmpty := by
  by_cases nonempty : parts = []
  · rw [nonempty]
    rfl
  · rw [listed, splitCommas_joinWith nonempty whole]

/-- There is only one way to split a text at its first colon. -/
theorem append_colon_inj {front behind front' behind' : String} (first : ':' ∉ front.toList)
    (first' : ':' ∉ front'.toList) (same : front ++ ":" ++ behind = front' ++ ":" ++ behind') :
    front = front' ∧ behind = behind' := by
  have split := splitColon_append first behind
  rw [same, splitColon_append first', Option.some.injEq, Prod.mk.injEq] at split
  exact ⟨split.1.symm, split.2.symm⟩

end Text

/-! ### Ways of writing -/

/-- The name of a direction. -/
def SortDirection.name : SortDirection → String
  | .ascending => "asc"
  | .descending => "desc"

namespace SortSpec

variable {keys : SortSpec} {key : SortKey} {part expression : String}

/-- Whether a field can be told from the rest of an expression: it is not empty, begins and ends
with a visible character, and has none of the two separators in it. -/
structure IsPlainField (field : String) : Prop where
  nonempty : field ≠ ""
  trimmed : Text.trim field = field
  noComma : ',' ∉ field.toList
  noColon : ':' ∉ field.toList

/-- The ways to write one key: its field, if it is ascending, or its field and its direction. -/
inductive EntryWritten : SortKey → String → Prop
  | plain {field part : String} (padded : Text.Padded field part) :
      EntryWritten ⟨field, .ascending⟩ part
  | directed {key : SortKey} {front name behind : String} (field : Text.Padded key.field front)
      (casing : Text.IsCasing key.direction.name name) (direction : Text.Padded name behind) :
      EntryWritten key (front ++ ":" ++ behind)

/-- The ways to write keys as parts: an entry for each of them, and blank parts. -/
inductive PartsWritten : SortSpec → List String → Prop
  | done : PartsWritten [] []
  | blank {keys : SortSpec} {part : String} {rest : List String}
      (blank : Text.isBlankText part = true) (later : PartsWritten keys rest) :
      PartsWritten keys (part :: rest)
  | entry {key : SortKey} {keys : SortSpec} {part : String} {rest : List String}
      (written : EntryWritten key part) (later : PartsWritten keys rest) :
      PartsWritten (key :: keys) (part :: rest)

/-- The ways to write keys. -/
def Written (keys : SortSpec) (expression : String) : Prop :=
  ∃ parts, PartsWritten keys parts ∧ expression = Text.joinWith "," parts

/-- The plain way to write keys. -/
def render (keys : SortSpec) : String :=
  Text.joinWith "," (keys.map fun key => key.field ++ ":" ++ key.direction.name)

/-! ### Directions -/

/-- The names of the directions, in letters of either case. -/
theorem direction?_eq_some_iff {name : String} {direction : SortDirection} :
    direction? name = some direction ↔ Text.IsCasing direction.name name := by
  have small : direction.name.toList.all Char.isLower = true := by cases direction <;> decide
  rw [← Text.asciiLowercase_eq_iff (List.all_eq_true.1 small), direction?]
  by_cases up : Text.asciiLowercase name = "asc"
  · cases direction <;> simp [SortDirection.name, up]
  · cases direction <;> simp [SortDirection.name, up]

/-- The letters in the names of the directions. -/
theorem mem_of_isCasing {direction : SortDirection} {name : String}
    (casing : Text.IsCasing direction.name name) :
    ∀ c ∈ name.toList, c ∈ "acdesACDES".toList := by
  intro c mem
  obtain ⟨letter, known, same⟩ := exists_mem_of_forall₂ casing c mem
  have table : (direction.name.toList.all fun letter =>
      letter ∈ "acdesACDES".toList ∧ letter.toUpper ∈ "acdesACDES".toList) = true := by
    cases direction <;> decide
  obtain ⟨small, large⟩ := of_decide_eq_true (List.all_eq_true.1 table letter known)
  rcases same with rfl | rfl
  · exact small
  · exact large

theorem trim_eq_of_isCasing {direction : SortDirection} {name : String}
    (casing : Text.IsCasing direction.name name) : Text.trim name = name := by
  have visible : ("acdesACDES".toList.all fun c => !Text.isBlank c) = true := by decide
  exact Text.trim_eq_self fun c mem =>
    Bool.not_inj (List.all_eq_true.1 visible c (mem_of_isCasing casing c mem))

/-! ### Entries -/

theorem IsPlainField.isBlankText {field : String} (plain : IsPlainField field) :
    Text.isBlankText field = false := by
  rw [Bool.eq_false_iff, Ne, Text.isBlankText_iff, plain.trimmed]
  exact plain.nonempty

/-- What is left of a text without separators, when it is trimmed, is a plain field unless the text
is blank. -/
theorem isPlainField_trim {s : String} (visible : Text.isBlankText s = false)
    (noComma : ',' ∉ s.toList) (noColon : ':' ∉ s.toList) : IsPlainField (Text.trim s) where
  nonempty none := by
    rw [← Text.isBlankText_iff, visible] at none
    cases none
  trimmed := Text.trim_trim s
  noComma mem := noComma ((Text.padded_trim s).mem mem)
  noColon mem := noColon ((Text.padded_trim s).mem mem)

/-- An entry without a colon denotes itself as a field. -/
theorem entryDenotes_trim_of_whole_iff (whole : ':' ∉ part.toList) :
    EntryDenotes (Text.trim part) key ↔
      Text.isBlankText part = false ∧ key = ⟨Text.trim part, .ascending⟩ := by
  have whole' : ':' ∉ (Text.trim part).toList := fun mem => whole ((Text.padded_trim part).mem mem)
  rw [← parseEntry_eq_ok_iff, parseEntry_of_whole whole', Bool.eq_false_iff, Ne,
    Text.isBlankText_iff]
  by_cases none : Text.trim part = "" <;> simp [none, eq_comm]

/-- An entry with a colon denotes what stands in front of the first one as a field, in the direction
that stands behind it. -/
theorem entryDenotes_trim_append_iff {front : String} (first : ':' ∉ front.toList)
    (behind : String) :
    EntryDenotes (Text.trim (front ++ ":" ++ behind)) key ↔
      Text.isBlankText front = false ∧ key.field = Text.trim front ∧
        Text.IsCasing key.direction.name (Text.trim behind) := by
  have visible : Text.isBlank ':' = false := by decide
  obtain ⟨front', behind', outer, outer', trimmed⟩ :=
    Text.exists_trim_append visible front behind
  have first' : ':' ∉ front'.toList := fun mem => first (outer.mem mem)
  rw [show Text.trim (front ++ ":" ++ behind) = front' ++ ":" ++ behind' from trimmed,
    ← parseEntry_eq_ok_iff, parseEntry_append first', ← Text.trim_of_padded outer',
    ← Text.trim_of_padded outer, ← Text.isBlankText_of_padded outer, ← direction?_eq_some_iff]
  obtain ⟨field, direction⟩ := key
  cases direction? (Text.trim behind) with
  | none => simp
  | some known => cases Text.isBlankText front <;> simp [eq_comm]

/-- The only way to write a key without a colon. -/
theorem entryWritten_of_whole_iff (whole : ':' ∉ part.toList) :
    EntryWritten key part ↔ key.direction = .ascending ∧ Text.Padded key.field part := by
  constructor
  · rintro (padded | _)
    · exact ⟨rfl, padded⟩
    · exact absurd (by simp) whole
  · obtain ⟨field, direction⟩ := key
    rintro ⟨rfl, padded⟩
    exact .plain padded

theorem entryWritten_append_iff (plain : IsPlainField key.field) {front : String}
    (first : ':' ∉ front.toList) (behind : String) :
    EntryWritten key (front ++ ":" ++ behind) ↔
      Text.Padded key.field front ∧ Text.IsCasing key.direction.name (Text.trim behind) := by
  have visible : Text.isBlank ':' = false := by decide
  constructor
  · generalize split : front ++ ":" ++ behind = part
    rintro (padded | ⟨field, casing, direction⟩)
    · exact absurd (padded.mem_of_visible visible (by simp [← split])) plain.noColon
    · next front' name behind' =>
      have first' : ':' ∉ front'.toList :=
        fun mem => plain.noColon (field.mem_of_visible visible mem)
      obtain ⟨rfl, rfl⟩ := Text.append_colon_inj first first' split
      rw [Text.trim_of_padded direction, trim_eq_of_isCasing casing]
      exact ⟨field, casing⟩
  · rintro ⟨field, casing⟩
    exact .directed field casing (Text.padded_trim behind)

/-- What an entry denotes is a plain field, and the entry is a way to write it. -/
theorem entryDenotes_trim_iff (visible : Text.isBlankText part = false)
    (noComma : ',' ∉ part.toList) :
    EntryDenotes (Text.trim part) key ↔ IsPlainField key.field ∧ EntryWritten key part := by
  obtain whole | ⟨front, behind, first, rfl⟩ := Text.splitColon_cases part
  · rw [entryDenotes_trim_of_whole_iff whole, entryWritten_of_whole_iff whole]
    constructor
    · rintro ⟨-, rfl⟩
      exact ⟨isPlainField_trim visible noComma whole, rfl, Text.padded_trim part⟩
    · obtain ⟨field, direction⟩ := key
      rintro ⟨plain, rfl, padded⟩
      rw [Text.trim_eq_iff.2 ⟨plain.trimmed, padded⟩]
      exact ⟨visible, rfl⟩
  · rw [entryDenotes_trim_append_iff first]
    constructor
    · rintro ⟨named, field, casing⟩
      have plain : IsPlainField key.field :=
        field ▸ isPlainField_trim named (fun mem => noComma (by simp [mem])) first
      exact ⟨plain, (entryWritten_append_iff plain first behind).2
        ⟨field ▸ Text.padded_trim front, casing⟩⟩
    · rintro ⟨plain, written⟩
      obtain ⟨padded, casing⟩ := (entryWritten_append_iff plain first behind).1 written
      rw [Text.isBlankText_of_padded padded, Text.trim_eq_iff.2 ⟨plain.trimmed, padded⟩]
      exact ⟨plain.isBlankText, rfl, casing⟩

/-- Just an entry that has no field in front of its first colon, or no direction behind it, denotes
no key. -/
theorem forall_not_entryDenotes_iff :
    (Text.isBlankText part = false ∧ ∀ key, ¬ EntryDenotes (Text.trim part) key) ↔
      ∃ front behind, part = front ++ ":" ++ behind ∧ ':' ∉ front.toList ∧
        (Text.isBlankText front = true ∨
          ∀ direction : SortDirection, ¬ Text.IsCasing direction.name (Text.trim behind)) := by
  obtain whole | ⟨front, behind, first, rfl⟩ := Text.splitColon_cases part
  · constructor
    · rintro ⟨visible, none⟩
      exact absurd ((entryDenotes_trim_of_whole_iff whole).2 ⟨visible, rfl⟩) (none _)
    · rintro ⟨front, behind, rfl, -⟩
      exact absurd (by simp) whole
  · have visible : Text.isBlankText (front ++ ":" ++ behind) = false :=
      Text.isBlankText_of_mem (c := ':') (by decide) (by simp)
    simp only [entryDenotes_trim_append_iff first]
    constructor
    · rintro ⟨-, none⟩
      refine ⟨front, behind, rfl, first, ?_⟩
      cases named : Text.isBlankText front with
      | true => exact .inl rfl
      | false => exact .inr fun direction casing => none ⟨_, direction⟩ ⟨named, rfl, casing⟩
    · rintro ⟨front', behind', same, first', bad⟩
      obtain ⟨rfl, rfl⟩ := Text.append_colon_inj first first' same
      refine ⟨visible, ?_⟩
      rintro key ⟨named, -, casing⟩
      rcases bad with blank | undirected
      · rw [named] at blank
        cases blank
      · exact undirected _ casing

/-- A way to write a plain field has no comma in it, and is not blank. -/
theorem EntryWritten.noComma (written : EntryWritten key part) (plain : IsPlainField key.field) :
    ',' ∉ part.toList := by
  have visible : Text.isBlank ',' = false := by decide
  have letters : ',' ∉ "acdesACDES".toList := by decide
  cases written with
  | plain padded => exact fun mem => plain.noComma (padded.mem_of_visible visible mem)
  | @directed _ front name behind field casing direction =>
    have noComma : ',' ∉ front.toList :=
      fun mem => plain.noComma (field.mem_of_visible visible mem)
    have noComma' : ',' ∉ behind.toList :=
      fun mem => letters (mem_of_isCasing casing _ (direction.mem_of_visible visible mem))
    simp [noComma, noComma']

theorem EntryWritten.isBlankText (written : EntryWritten key part)
    (plain : IsPlainField key.field) : Text.isBlankText part = false := by
  cases written with
  | plain padded => rw [Text.isBlankText_of_padded padded, plain.isBlankText]
  | directed field casing direction =>
    exact Text.isBlankText_of_mem (c := ':') (by decide) (by simp)

/-! ### Expressions -/

theorem forall₂_entryDenotes_iff {parts : List String}
    (whole : ∀ part ∈ parts, ',' ∉ part.toList) :
    List.Forall₂ EntryDenotes ((parts.map Text.trim).filter fun part => !part.isEmpty) keys ↔
      (∀ key ∈ keys, IsPlainField key.field) ∧ PartsWritten keys parts := by
  induction parts generalizing keys with
  | nil =>
    rw [List.map_nil, List.filter_nil, List.forall₂_nil_left_iff]
    constructor
    · rintro rfl
      exact ⟨nofun, .done⟩
    · rintro ⟨-, written⟩
      cases written
      rfl
  | cons part rest ih =>
    obtain ⟨noComma, whole⟩ := List.forall_mem_cons.1 whole
    have kept : (!(Text.trim part).isEmpty) = !Text.isBlankText part := by
      rw [Bool.eq_iff_iff, Bool.not_eq_true', Bool.not_eq_true', Bool.eq_false_iff,
        Bool.eq_false_iff, Ne, Ne, String.isEmpty_iff, Text.isBlankText_iff]
    rw [List.map_cons, List.filter_cons, kept]
    cases visible : Text.isBlankText part with
    | true =>
      -- a blank part says nothing, and no entry is blank
      rw [if_neg (by decide), ih whole]
      refine and_congr_right fun plain => ⟨.blank visible, ?_⟩
      rintro (_ | ⟨-, later⟩ | ⟨written, -⟩)
      · exact later
      · rw [written.isBlankText (plain _ List.mem_cons_self)] at visible
        cases visible
    | false =>
      rw [if_pos (by decide), List.forall₂_cons_left_iff]
      constructor
      · rintro ⟨key, keys, denotes, later, rfl⟩
        obtain ⟨plain, written⟩ := (entryDenotes_trim_iff visible noComma).1 denotes
        obtain ⟨others, later⟩ := (ih whole).1 later
        exact ⟨List.forall_mem_cons.2 ⟨plain, others⟩, .entry written later⟩
      · rintro ⟨plain, (_ | ⟨blank, -⟩ | ⟨written, later⟩)⟩
        · rw [visible] at blank
          cases blank
        · obtain ⟨first, others⟩ := List.forall_mem_cons.1 plain
          exact ⟨_, _, (entryDenotes_trim_iff visible noComma).2 ⟨first, written⟩,
            (ih whole).2 ⟨others, later⟩, rfl⟩

theorem PartsWritten.noComma {parts : List String} (written : PartsWritten keys parts)
    (plain : ∀ key ∈ keys, IsPlainField key.field) : ∀ part ∈ parts, ',' ∉ part.toList := by
  induction written with
  | done => exact nofun
  | blank blank _ ih =>
    refine List.forall_mem_cons.2 ⟨fun mem => ?_, ih plain⟩
    rw [Text.isBlankText_of_mem (by decide) mem] at blank
    cases blank
  | entry written _ ih =>
    obtain ⟨first, others⟩ := List.forall_mem_cons.1 plain
    exact List.forall_mem_cons.2 ⟨written.noComma first, ih others⟩

/-- Just the ways to write keys with plain fields are read as these keys. -/
theorem parse_eq_ok_iff_written :
    parse expression = .ok keys ↔
      (∀ key ∈ keys, IsPlainField key.field) ∧ Written keys expression := by
  rw [parse_eq_ok_iff]
  constructor
  · intro denoted
    have parts := fun part => @Text.notMem_of_mem_splitCommas expression part
    obtain ⟨plain, written⟩ := (forall₂_entryDenotes_iff parts).1 denoted
    exact ⟨plain, _, written, (Text.joinWith_splitCommas expression).symm⟩
  · rintro ⟨plain, parts, written, rfl⟩
    have whole := written.noComma plain
    rw [Text.listed_joinWith whole]
    exact (forall₂_entryDenotes_iff whole).2 ⟨plain, written⟩

/-- Just the expressions with an entry that denotes no key are refused. -/
theorem parse_eq_error_iff :
    (∃ e, parse expression = .error e) ↔
      ∃ part ∈ Text.splitCommas expression, ∃ front behind,
        part = front ++ ":" ++ behind ∧ ':' ∉ front.toList ∧
          (Text.isBlankText front = true ∨
            ∀ direction : SortDirection, ¬ Text.IsCasing direction.name (Text.trim behind)) := by
  have refused : (∃ e, parse expression = .error e) ↔
      ¬ ∃ keys, List.Forall₂ EntryDenotes (Text.listed expression) keys := by
    simp only [← parse_eq_ok_iff]
    cases parse expression <;> simp
  simp only [← forall_not_entryDenotes_iff, refused, exists_forall₂_iff, Text.mem_listed_iff]
  push Not
  constructor
  · rintro ⟨_, ⟨part, mem, visible, rfl⟩, none⟩
    exact ⟨part, mem, visible, none⟩
  · rintro ⟨part, mem, visible, none⟩
    exact ⟨_, ⟨part, mem, visible, rfl⟩, none⟩

/-- The plain way to write keys is one of the ways. -/
theorem written_render (keys : SortSpec) : Written keys (render keys) := by
  refine ⟨_, ?_, rfl⟩
  induction keys with
  | nil => exact .done
  | cons key keys ih =>
    have casing : Text.IsCasing key.direction.name key.direction.name :=
      List.forall₂_same.2 fun letter _ => .inl rfl
    exact .entry (.directed (Text.padded_self _) casing (Text.padded_self _)) ih

/-- **Reading sort keys.** Keys with plain fields are read from every way to write them. Every
expression is refused as an invalid query or is a way to write the keys with plain fields that are
read from it, so that they are also read when they are written the plain way. Just an expression is
refused one of whose parts has nothing but white space in front of its first colon, or no direction
behind it. -/
theorem parse_reads_writing :
    (∀ (keys : SortSpec) (expression : String), (∀ key ∈ keys, IsPlainField key.field) →
      Written keys expression → parse expression = .ok keys) ∧
    (∀ expression, (∃ message, parse expression = .error (.invalidQuery message)) ∨
      ∃ keys, parse expression = .ok keys ∧ (∀ key ∈ keys, IsPlainField key.field) ∧
        Written keys expression ∧ Written keys (render keys) ∧ parse (render keys) = .ok keys) ∧
    ∀ expression, (∃ e, parse expression = .error e) ↔
      ∃ part ∈ Text.splitCommas expression, ∃ front behind,
        part = front ++ ":" ++ behind ∧ ':' ∉ front.toList ∧
          (Text.isBlankText front = true ∨
            ∀ direction : SortDirection, ¬ Text.IsCasing direction.name (Text.trim behind)) := by
  refine ⟨fun keys expression plain written => parse_eq_ok_iff_written.2 ⟨plain, written⟩,
    fun expression => ?_, fun expression => parse_eq_error_iff⟩
  cases read : parse expression with
  | error e =>
    obtain ⟨message, rfl⟩ := failsOnlyWith_parse expression e read
    exact .inl ⟨message, rfl⟩
  | ok keys =>
    obtain ⟨plain, written⟩ := parse_eq_ok_iff_written.1 read
    have plainly := written_render keys
    exact .inr ⟨keys, rfl, plain, written, plainly, parse_eq_ok_iff_written.2 ⟨plain, plainly⟩⟩

/-- Two keys, with a space that is none of ASCII around a field, and with blank entries. -/
theorem amount_and_name_are_read :
    let keys : SortSpec := [⟨"amount", .descending⟩, ⟨"first name", .ascending⟩]
    let expression := " amount :\tdEsC, ,\u00a0first name ,"
    (∀ key ∈ keys, IsPlainField key.field) ∧ Written keys expression ∧
      parse expression = .ok keys := by
  intro keys expression
  have plain : ∀ key ∈ keys, IsPlainField key.field := by
    have first : IsPlainField "amount" := ⟨by decide, by decide, by decide, by decide⟩
    have second : IsPlainField "first name" := ⟨by decide, by decide, by decide, by decide⟩
    simpa [keys] using ⟨first, second⟩
  have written : Written keys expression := by
    refine ⟨[" amount :\tdEsC", " ", "\u00a0first name ", ""], ?_, rfl⟩
    have first : EntryWritten ⟨"amount", .descending⟩ (" amount " ++ ":" ++ "\tdEsC") :=
      .directed ⟨" ", " ", rfl, rfl, rfl⟩ (by decide : Text.IsCasing "desc" "dEsC")
        ⟨"\t", "", rfl, rfl, rfl⟩
    have second : EntryWritten ⟨"first name", .ascending⟩ "\u00a0first name " :=
      .plain ⟨"\u00a0", " ", rfl, rfl, rfl⟩
    exact .entry first (.blank rfl (.entry second (.blank rfl .done)))
  exact ⟨plain, written, parse_reads_writing.1 keys expression plain written⟩

end SortSpec

end RecordStore
