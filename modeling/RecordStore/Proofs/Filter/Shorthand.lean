import Mathlib.Data.List.TakeWhile
import RecordStore.Filter.Shorthand
import RecordStore.Proofs.Error
import RecordStore.Proofs.Field.Json
import RecordStore.Proofs.Filter
import RecordStore.Proofs.Members

/-!
# The grammar of the filter shorthand

A member of a shorthand object is the name of a field with a suffix behind it, and an operand that
fits the suffix. No character of a suffix may stand in a field name, so that a name is split in one
way only, although some suffixes begin like others. Just the objects of such members are read, one
filter for each of them in their order, and every filter that some member denotes has one by which
it is written. The operands of numeric filters are floating-point numbers: a large integer is
rounded, and the bounds of a range are compared after that.

* `Suffix.Means`, `Shorthand.Denotes` — the grammar with its meaning;
* `Shorthand.splitKey?_eq_some_iff` — the names of members;
* `Shorthand.entry_eq_ok_iff`, `Shorthand.entries_eq_ok_iff` — one member and all of them;
* `Shorthand.parse_reads_grammar` — what is read, how, and that it can be written;
* `Shorthand.reversed_bounds_are_read` — bounds that rounding makes equal.
-/

namespace RecordStore

/-! ### Suffixes and operands -/

namespace Suffix

/-- The text of a suffix. -/
def text (suffix : Suffix) : String := String.ofList suffix.chars

/-- The relation to one number that a suffix names. -/
def comparison? : Suffix → Option (Binary64 → NumericOperator)
  | .plain => some .equals
  | .greater => some .greaterThan
  | .less => some .lessThan
  | .greaterEq => some .greaterOrEqual
  | .lessEq => some .lessOrEqual
  | _ => none

/-- The relation to a text that a suffix names, and whether it ignores case. -/
def relation? : Suffix → Option (TextOperator × Bool)
  | .plain => some (.equals, false)
  | .differs => some (.notEquals, false)
  | .substring => some (.contains, false)
  | .substringIgnoringCase => some (.contains, true)
  | .beginning => some (.startsWith, false)
  | .ending => some (.endsWith, false)
  | _ => none

/-- What a suffix with an operand means. An operand that does not fit the suffix means nothing. -/
inductive Means : Suffix → Json → Condition → Prop
  | truth (b : Bool) : Means .plain (.bool b) (.boolean b)
  | comparison {suffix : Suffix} {operator : Binary64 → NumericOperator}
      (names : suffix.comparison? = some operator) (n : JsonNumber) :
      Means suffix (.number n) (.numeric (operator (FieldValue.binary64Of n)))
  | range {low high : JsonNumber}
      (ordered : (FieldValue.binary64Of low).lessOrEqual (FieldValue.binary64Of high) = true) :
      Means .range (.array [.number low, .number high])
        (.numeric (.between (FieldValue.binary64Of low) (FieldValue.binary64Of high)))
  | relation {suffix : Suffix} {operator : TextOperator} {ignoreCase : Bool}
      (names : suffix.relation? = some (operator, ignoreCase)) (s : String) :
      Means suffix (.text s) (.text operator s ignoreCase)

/-- Whether an operand fits a suffix: a text, number or truth value behind a plain name, a number
behind a comparison, two numbers in their order behind the sign of a range, and a text behind all
other suffixes. -/
def Fits : Suffix → Json → Prop
  | .plain, operand =>
    (∃ s, operand = .text s) ∨ (∃ n, operand = .number n) ∨ ∃ b, operand = .bool b
  | .greater, operand => ∃ n, operand = .number n
  | .less, operand => ∃ n, operand = .number n
  | .greaterEq, operand => ∃ n, operand = .number n
  | .lessEq, operand => ∃ n, operand = .number n
  | .range, operand => ∃ low high, operand = .array [.number low, .number high] ∧
      (FieldValue.binary64Of low).lessOrEqual (FieldValue.binary64Of high) = true
  | .differs, operand => ∃ s, operand = .text s
  | .substring, operand => ∃ s, operand = .text s
  | .substringIgnoringCase, operand => ∃ s, operand = .text s
  | .beginning, operand => ∃ s, operand = .text s
  | .ending, operand => ∃ s, operand = .text s

/-- Just the operands that fit mean something. -/
theorem fits_iff {suffix : Suffix} {operand : Json} :
    suffix.Fits operand ↔ ∃ relation, suffix.Means operand relation := by
  constructor
  · intro fits
    cases suffix with
    | plain =>
      obtain ⟨s, rfl⟩ | ⟨n, rfl⟩ | ⟨b, rfl⟩ := fits
      · exact ⟨_, .relation rfl s⟩
      · exact ⟨_, .comparison rfl n⟩
      · exact ⟨_, .truth b⟩
    | range =>
      obtain ⟨low, high, rfl, ordered⟩ := fits
      exact ⟨_, .range ordered⟩
    | greater | less | greaterEq | lessEq =>
      obtain ⟨n, rfl⟩ := fits
      exact ⟨_, .comparison rfl n⟩
    | differs | substring | substringIgnoringCase | beginning | ending =>
      obtain ⟨s, rfl⟩ := fits
      exact ⟨_, .relation rfl s⟩
  · rintro ⟨relation, means⟩
    cases means with
    | truth b => exact .inr (.inr ⟨b, rfl⟩)
    | range ordered => exact ⟨_, _, rfl, ordered⟩
    | comparison names n =>
      cases suffix with
      | plain => exact .inr (.inl ⟨n, rfl⟩)
      | greater | less | greaterEq | lessEq => exact ⟨n, rfl⟩
      | _ => cases names
    | relation names s =>
      cases suffix with
      | plain => exact .inl ⟨s, rfl⟩
      | differs | substring | substringIgnoringCase | beginning | ending => exact ⟨s, rfl⟩
      | _ => cases names

theorem ofChars?_eq_some_iff {cs : List Char} {suffix : Suffix} :
    ofChars? cs = some suffix ↔ cs = suffix.chars := by
  constructor
  · intro found
    have same := List.find?_some found
    exact (beq_iff_eq.1 same).symm
  · rintro rfl
    cases suffix <;> decide

/-- No suffix begins with a character of field names. -/
theorem takeWhile_chars (suffix : Suffix) : suffix.chars.takeWhile Shorthand.isNameChar = [] := by
  cases suffix <;> decide

theorem dropWhile_chars (suffix : Suffix) :
    suffix.chars.dropWhile Shorthand.isNameChar = suffix.chars := by
  cases suffix <;> decide

end Suffix

/-! ### Names of members -/

namespace Shorthand

/-- Whether a name is one of a field, with no suffix behind it. -/
def IsFieldName (name : String) : Prop := name ≠ "" ∧ ∀ c ∈ name.toList, isNameChar c = true

variable {name : String}

instance : Decidable (IsFieldName name) :=
  decidable_of_iff (name ≠ "" ∧ name.toList.all isNameChar) (and_congr_right' List.all_eq_true)

theorem isBlank_of_isNameChar {c : Char} (h : isNameChar c = true) : Text.isBlank c = false := by
  have early : c.toNat < 123 := by
    simp only [isNameChar, Bool.or_eq_true, beq_iff_eq] at h
    obtain (alphanumeric | rfl) | rfl := h
    · obtain alpha | digit := Bool.or_eq_true_iff.1 alphanumeric
      · obtain upper | lower := Bool.or_eq_true_iff.1 alpha
        · have : c.toNat ≤ 90 := (of_decide_eq_true upper).2
          omega
        · have : c.toNat ≤ 122 := of_decide_eq_true (Bool.and_eq_true_iff.1 lower).2
          omega
      · have : c.toNat ≤ 57 := of_decide_eq_true (Bool.and_eq_true_iff.1 digit).2
        omega
    · decide
    · decide
  have visible : ∀ n < 123, isNameChar (Char.ofNat n) = true →
      Text.isBlank (Char.ofNat n) = false := by decide
  rw [← Char.ofNat_toNat c] at h ⊢
  exact visible _ early h

theorem isBlankText_of_isFieldName (plain : IsFieldName name) : Text.isBlankText name = false := by
  rw [Text.isBlankText, List.all_eq_false]
  obtain ⟨c, mem⟩ := List.exists_mem_of_ne_nil _ (mt String.toList_eq_nil_iff.1 plain.1)
  exact ⟨c, mem, by rw [isBlank_of_isNameChar (plain.2 c mem)]; exact Bool.false_ne_true⟩

/-- A name is split into that of a field and a suffix in at most one way. -/
theorem splitKey?_eq_some_iff {key field : String} {suffix : Suffix} :
    splitKey? key = some (field, suffix) ↔ IsFieldName field ∧ key = field ++ suffix.text := by
  rw [splitKey?]
  constructor
  · intro h
    split at h
    · cases h
    · next named =>
      obtain ⟨_, found, same⟩ := Option.map_eq_some_iff.1 h
      cases same
      have rest := Suffix.ofChars?_eq_some_iff.1 found
      refine ⟨⟨fun empty => ?_, fun c mem => ?_⟩, ?_⟩
      · rw [String.ofList_eq_empty_iff] at empty
        exact named (List.isEmpty_iff.2 empty)
      · rw [String.toList_ofList] at mem
        exact List.mem_takeWhile_imp mem
      · rw [Suffix.text, ← rest, ← String.ofList_append, List.takeWhile_append_dropWhile,
          String.ofList_toList]
  · rintro ⟨⟨nonempty, chars⟩, rfl⟩
    have front : (field ++ suffix.text).toList.takeWhile isNameChar = field.toList := by
      rw [String.toList_append, Suffix.text, String.toList_ofList,
        List.takeWhile_append_of_pos chars, suffix.takeWhile_chars, List.append_nil]
    have behind : (field ++ suffix.text).toList.dropWhile isNameChar = suffix.chars := by
      rw [String.toList_append, Suffix.text, String.toList_ofList,
        List.dropWhile_append_of_pos chars, suffix.dropWhile_chars]
    have named : ¬ field.toList.isEmpty = true := by
      rw [List.isEmpty_iff, String.toList_eq_nil_iff]
      exact nonempty
    simp only [front, behind, if_neg named, Suffix.ofChars?_eq_some_iff.2 rfl, Option.map_some,
      String.ofList_toList]

/-! ### Conditions -/

variable {field : String} {suffix : Suffix} {operand : Json} {relation : Condition}

theorem number_eq_ok_iff {v : Binary64} :
    number field operand = .ok v ↔ ∃ n, operand = .number n ∧ FieldValue.binary64Of n = v := by
  cases operand <;> simp [number]

theorem text_eq_ok_iff {s : String} : text field operand = .ok s ↔ operand = .text s := by
  cases operand <;> simp [text]

/-- A comparison that is read with its operand. -/
theorem means_of_number {operator : Binary64 → NumericOperator}
    (names : suffix.comparison? = some operator)
    (read : (do let v ← number field operand; .ok (Condition.numeric (operator v))) =
      .ok relation) :
    suffix.Means operand relation := by
  obtain ⟨v, numeric, same⟩ := bind_eq_ok_iff.1 read
  obtain ⟨n, rfl, rfl⟩ := number_eq_ok_iff.1 numeric
  cases same
  exact .comparison names n

/-- A relation of texts that is read with its operand. -/
theorem means_of_text {operator : TextOperator} {ignoreCase : Bool}
    (names : suffix.relation? = some (operator, ignoreCase))
    (read : (do let s ← text field operand; .ok (Condition.text operator s ignoreCase)) =
      .ok relation) :
    suffix.Means operand relation := by
  obtain ⟨s, textual, same⟩ := bind_eq_ok_iff.1 read
  obtain rfl := text_eq_ok_iff.1 textual
  cases same
  exact .relation names s

theorem lessOrEqual_iff_not_less (low high : JsonNumber) :
    (FieldValue.binary64Of low).lessOrEqual (FieldValue.binary64Of high) = true ↔
      (FieldValue.binary64Of high).less (FieldValue.binary64Of low) = false := by
  obtain ⟨j, lower⟩ := Binary64.exists_signedRank_of_isFinite (FieldValue.isFinite_binary64Of low)
  obtain ⟨k, upper⟩ := Binary64.exists_signedRank_of_isFinite (FieldValue.isFinite_binary64Of high)
  rw [Binary64.lessOrEqual_iff lower upper, ← Bool.not_eq_true, Binary64.less_iff upper lower,
    Int.not_lt]

/-- What is read and valid is what the suffix means; only the order of bounds is left to the check
of the filter. -/
theorem means_of_condition (read : condition field suffix operand = .ok relation)
    (valid : (Filter.mk field relation).validate = .ok ()) : suffix.Means operand relation := by
  cases suffix with
  | plain =>
    cases operand with
    | bool b =>
      cases read
      exact .truth b
    | number n =>
      cases read
      exact .comparison rfl n
    | text s =>
      cases read
      exact .relation rfl s
    | null | array items | object members => cases read
  | range =>
    dsimp only [condition] at read
    split at read
    · obtain ⟨_, lower, rest⟩ := bind_eq_ok_iff.1 read
      obtain ⟨_, upper, same⟩ := bind_eq_ok_iff.1 rest
      obtain ⟨low, rfl, rfl⟩ := number_eq_ok_iff.1 lower
      obtain ⟨high, rfl, rfl⟩ := number_eq_ok_iff.1 upper
      cases same
      have sound := Filter.fault?_eq_none_of_valid valid rfl
      have ordered : ¬ (FieldValue.binary64Of high).less (FieldValue.binary64Of low) = true := by
        intro reversed
        rw [NumericOperator.fault?, if_pos reversed] at sound
        cases sound
      exact .range ((lessOrEqual_iff_not_less low high).2 (Bool.not_eq_true _ ▸ ordered))
    · cases read
  | greater | less | greaterEq | lessEq => exact means_of_number rfl read
  | differs | substring | substringIgnoringCase | beginning | ending => exact means_of_text rfl read

/-- What a suffix means is read. -/
theorem condition_of_means (means : suffix.Means operand relation) (field : String) :
    condition field suffix operand = .ok relation := by
  cases means with
  | truth b => rfl
  | range ordered => rfl
  | comparison names n => cases suffix <;> cases names <;> rfl
  | relation names s => cases suffix <;> cases names <;> rfl

theorem isFinite_of_means {operator : NumericOperator}
    (means : suffix.Means operand (.numeric operator)) :
    ∀ v ∈ operator.operands, v.isFinite = true := by
  have finite := FieldValue.isFinite_binary64Of
  cases means with
  | comparison names n =>
    cases suffix <;> cases names <;> exact List.forall_mem_singleton.2 (finite n)
  | range ordered => exact List.forall_mem_cons.2 ⟨finite _, List.forall_mem_singleton.2 (finite _)⟩

/-- What a suffix means is a valid condition. -/
theorem validate_of_means (plain : IsFieldName field) (means : suffix.Means operand relation) :
    (Filter.mk field relation).validate = .ok () := by
  refine Filter.validate_eq_ok_iff.2 ⟨isBlankText_of_isFieldName plain, ?_⟩
  rintro operator rfl
  refine NumericOperator.fault?_eq_none_iff.2 ⟨isFinite_of_means means, fun low high bounds => ?_⟩
  cases means with
  | range ordered =>
    cases bounds
    exact (lessOrEqual_iff_not_less _ _).1 ordered
  | comparison names n => cases suffix <;> cases names <;> cases bounds

/-! ### Members and objects -/

/-- Whether a member denotes a filter: its name is that of the field with a suffix behind it, and
the suffix with the operand means the condition. -/
def Denotes (member : String × Json) (filter : Filter) : Prop :=
  ∃ suffix : Suffix, IsFieldName filter.field ∧ member.1 = filter.field ++ suffix.text ∧
    suffix.Means member.2 filter.condition

variable {filter : Filter} {filters : FilterSet} {members : List (String × Json)}

theorem validate_of_denotes {member : String × Json} (denoted : Denotes member filter) :
    filter.validate = .ok () := by
  obtain ⟨suffix, plain, -, means⟩ := denoted
  exact validate_of_means plain means

theorem validate_of_forall₂ (denoted : List.Forall₂ Denotes members filters) :
    ∀ filter ∈ filters, filter.validate = .ok () := by
  intro filter mem
  obtain ⟨member, -, denotes⟩ := exists_mem_of_forall₂ denoted filter mem
  exact validate_of_denotes denotes

/-- Just the filters that a member denotes are read of it. -/
theorem entry_eq_ok_iff {key : String} :
    entry key operand = .ok filter ↔ Denotes (key, operand) filter := by
  constructor
  · intro h
    rw [entry] at h
    split at h
    · cases h
    · next split =>
      obtain ⟨plain, rfl⟩ := splitKey?_eq_some_iff.1 split
      obtain ⟨relation, read, rest⟩ := bind_eq_ok_iff.1 h
      obtain ⟨_, valid, same⟩ := bind_eq_ok_iff.1 rest
      cases same
      exact ⟨_, plain, rfl, means_of_condition read valid⟩
  · rintro ⟨suffix, plain, rfl, means⟩
    rw [entry, splitKey?_eq_some_iff.2 ⟨plain, rfl⟩]
    refine bind_eq_ok_iff.2 ⟨_, condition_of_means means _, bind_eq_ok_iff.2 ⟨(), ?_, rfl⟩⟩
    exact validate_of_means plain means

theorem entries_eq_mapM (members : List (String × Json)) :
    entries members = members.mapM fun m => entry m.1 m.2 := by
  induction members with
  | nil => rfl
  | cons m rest ih =>
    rw [entries, List.mapM_cons, ih]
    rfl

theorem entries_eq_ok_iff :
    entries members = .ok filters ↔ List.Forall₂ Denotes members filters := by
  rw [entries_eq_mapM, mapM_eq_ok_iff]
  simp only [entry_eq_ok_iff]

/-- Objects of members that say filters are read, and nothing else is. -/
theorem parse_eq_ok_iff {v : Json} :
    parse v = .ok filters ↔
      ∃ members, v = .object members ∧ List.Forall₂ Denotes members filters := by
  cases v with
  | object members =>
    rw [parse, entries_eq_ok_iff]
    constructor
    · exact fun denoted => ⟨members, rfl, denoted⟩
    · rintro ⟨_, ⟨⟩, denoted⟩
      exact denoted
  | null | bool b | number n | text s | array items => exact ⟨nofun, nofun⟩

/-- Each member of an object that is read is a field name with a suffix that the operand fits. -/
theorem exists_forall₂_denotes_iff :
    (∃ filters, List.Forall₂ Denotes members filters) ↔
      ∀ m ∈ members, ∃ field suffix, IsFieldName field ∧ m.1 = field ++ Suffix.text suffix ∧
        suffix.Fits m.2 := by
  induction members with
  | nil => exact ⟨fun _ => nofun, fun _ => ⟨[], .nil⟩⟩
  | cons m rest ih =>
    rw [List.forall_mem_cons, ← ih]
    constructor
    · rintro ⟨_, _ | ⟨⟨suffix, plain, named, means⟩, others⟩⟩
      exact ⟨⟨_, suffix, plain, named, Suffix.fits_iff.2 ⟨_, means⟩⟩, _, others⟩
    · rintro ⟨⟨field, suffix, plain, named, fits⟩, filters, others⟩
      obtain ⟨relation, means⟩ := Suffix.fits_iff.1 fits
      exact ⟨⟨field, relation⟩ :: filters, .cons ⟨suffix, plain, named, means⟩ others⟩

/-! ### Refusals -/

theorem failsOnlyWith_number : FailsOnlyWith StoreError.IsInvalidFilter (number field operand) := by
  cases operand with
  | number n => exact .of_ok _
  | _ => exact .of_error (FilterFault.isInvalidFilter_on _ _)

theorem failsOnlyWith_text : FailsOnlyWith StoreError.IsInvalidFilter (text field operand) := by
  cases operand with
  | text s => exact .of_ok _
  | _ => exact .of_error (FilterFault.isInvalidFilter_on _ _)

theorem failsOnlyWith_condition :
    FailsOnlyWith StoreError.IsInvalidFilter (condition field suffix operand) := by
  cases suffix with
  | plain =>
    cases operand with
    | bool b => exact .of_ok _
    | number n => exact .of_ok _
    | text s => exact .of_ok _
    | null | array items | object members => exact .of_error (FilterFault.isInvalidFilter_on _ _)
  | range =>
    dsimp only [condition]
    split
    · exact failsOnlyWith_number.bind fun _ => failsOnlyWith_number.bind fun _ => .of_ok _
    · exact .of_error (FilterFault.isInvalidFilter_on _ _)
  | greater | less | greaterEq | lessEq => exact failsOnlyWith_number.bind fun _ => .of_ok _
  | differs | substring | substringIgnoringCase | beginning | ending =>
    exact failsOnlyWith_text.bind fun _ => .of_ok _

theorem failsOnlyWith_entry (key : String) (operand : Json) :
    FailsOnlyWith StoreError.IsInvalidFilter (entry key operand) := by
  rw [entry]
  split
  · exact .of_error (FilterFault.isInvalidFilter_on _ _)
  · exact failsOnlyWith_condition.bind fun _ => (Filter.failsOnlyWith_validate _).bind fun _ =>
      .of_ok _

theorem failsOnlyWith_entries (members : List (String × Json)) :
    FailsOnlyWith StoreError.IsInvalidFilter (entries members) := by
  rw [entries_eq_mapM]
  refine FailsOnlyWith.mapM (fun m => ?_) members
  exact failsOnlyWith_entry m.1 m.2

/-- What is not read is refused as an invalid filter. -/
theorem failsOnlyWith_parse (v : Json) : FailsOnlyWith StoreError.IsInvalidFilter (parse v) := by
  cases v with
  | object members => exact failsOnlyWith_entries members
  | _ => exact .of_error (FilterFault.isInvalidFilter_on _ _)

end Shorthand

/-! ### Writing -/

/-- The suffix of a relation of texts. Of the relations that ignore case only one has a suffix. -/
def TextOperator.suffix (ignoreCase : Bool) : TextOperator → Suffix
  | .equals => .plain
  | .notEquals => .differs
  | .contains => if ignoreCase then .substringIgnoringCase else .substring
  | .startsWith => .beginning
  | .endsWith => .ending

/-- The suffix and the operand of a numeric operator. -/
def NumericOperator.shorthand : NumericOperator → Suffix × Json
  | .equals v => (.plain, .ofBinary64 v)
  | .greaterThan v => (.greater, .ofBinary64 v)
  | .lessThan v => (.less, .ofBinary64 v)
  | .greaterOrEqual v => (.greaterEq, .ofBinary64 v)
  | .lessOrEqual v => (.lessEq, .ofBinary64 v)
  | .between low high => (.range, .array [.ofBinary64 low, .ofBinary64 high])

/-- The suffix and the operand of a condition. -/
def Condition.shorthand : Condition → Suffix × Json
  | .text operator operand ignoreCase => (operator.suffix ignoreCase, .text operand)
  | .numeric operator => operator.shorthand
  | .boolean operand => (.plain, .bool operand)

/-- The member by which a filter is written. -/
def Filter.shorthand (filter : Filter) : String × Json :=
  (filter.field ++ filter.condition.shorthand.1.text, filter.condition.shorthand.2)

namespace Shorthand

/-- The object of the members of filters, put into it one after the other. -/
def ofFilters (filters : FilterSet) : Json :=
  .object (Members.distinct (filters.map Filter.shorthand))

/-- A finite number is written as one of JSON. -/
theorem exists_ofBinary64 {v : Binary64} (finite : v.isFinite = true) :
    ∃ n, Json.ofBinary64 v = .number n ∧ FieldValue.binary64Of n = v :=
  ⟨.float v finite, dif_pos finite, rfl⟩

theorem means_comparison {suffix : Suffix} {operator : Binary64 → NumericOperator} {v : Binary64}
    (names : suffix.comparison? = some operator) (finite : v.isFinite = true) :
    suffix.Means (.ofBinary64 v) (.numeric (operator v)) := by
  obtain ⟨n, written, rfl⟩ := exists_ofBinary64 finite
  rw [written]
  exact .comparison names n

theorem means_range {low high : Binary64} (finiteLow : low.isFinite = true)
    (finiteHigh : high.isFinite = true) (ordered : low.lessOrEqual high = true) :
    Suffix.range.Means (.array [.ofBinary64 low, .ofBinary64 high])
      (.numeric (.between low high)) := by
  obtain ⟨l, lower, rfl⟩ := exists_ofBinary64 finiteLow
  obtain ⟨h, upper, rfl⟩ := exists_ofBinary64 finiteHigh
  rw [lower, upper]
  exact .range ordered

/-- A condition that can be written means what is written for it. -/
theorem means_shorthand {suffix : Suffix} {operand : Json} {relation : Condition}
    (means : suffix.Means operand relation) :
    relation.shorthand.1.Means relation.shorthand.2 relation := by
  have finite := FieldValue.isFinite_binary64Of
  cases means with
  | truth b => exact .truth b
  | relation names s => cases suffix <;> cases names <;> exact .relation rfl s
  | comparison names n => cases suffix <;> cases names <;> exact means_comparison rfl (finite n)
  | range ordered => exact means_range (finite _) (finite _) ordered

theorem denotes_shorthand {member : String × Json} {filter : Filter}
    (denoted : Denotes member filter) : Denotes filter.shorthand filter := by
  obtain ⟨suffix, plain, -, means⟩ := denoted
  exact ⟨_, plain, rfl, means_shorthand means⟩

/-- Filters that can be written under different names are read as they were written. -/
theorem parse_ofFilters {filters : FilterSet}
    (written : ∀ filter ∈ filters, ∃ member, Denotes member filter)
    (distinct : (Members.names (filters.map Filter.shorthand)).Nodup) :
    parse (ofFilters filters) = .ok filters := by
  refine parse_eq_ok_iff.2 ⟨_, rfl, ?_⟩
  rw [Members.distinct_of_nodup distinct, List.forall₂_map_left_iff, List.forall₂_same]
  intro filter mem
  obtain ⟨member, denoted⟩ := written filter mem
  exact denotes_shorthand denoted

/-- **The grammar of the shorthand.** Just the objects whose members all have a field name with a
suffix that the operand fits are read, as the filters that their members denote, in the order of the
members. These are valid, every other value is refused as an invalid filter, and filters that can be
written under different names are read as they were written. -/
theorem parse_reads_grammar :
    (∀ v, (∃ filters, parse v = .ok filters) ↔ ∃ members, v = .object members ∧
      ∀ m ∈ members, ∃ field suffix, IsFieldName field ∧ m.1 = field ++ Suffix.text suffix ∧
        suffix.Fits m.2) ∧
    (∀ members filters,
      parse (.object members) = .ok filters ↔ List.Forall₂ Denotes members filters) ∧
    (∀ v filters, parse v = .ok filters → ∀ filter ∈ filters, filter.validate = .ok ()) ∧
    (∀ v e, parse v = .error e → ∃ field message, e = .invalidFilter field message) ∧
    ∀ filters : FilterSet, (∀ filter ∈ filters, ∃ member, Denotes member filter) →
      (Members.names (filters.map Filter.shorthand)).Nodup →
        parse (ofFilters filters) = .ok filters := by
  refine ⟨fun v => ?_, fun members filters => entries_eq_ok_iff, fun v filters read => ?_,
    failsOnlyWith_parse, fun filters => parse_ofFilters⟩
  · constructor
    · rintro ⟨filters, read⟩
      obtain ⟨members, rfl, denoted⟩ := parse_eq_ok_iff.1 read
      exact ⟨members, rfl, exists_forall₂_denotes_iff.1 ⟨filters, denoted⟩⟩
    · rintro ⟨members, rfl, fitting⟩
      obtain ⟨filters, denoted⟩ := exists_forall₂_denotes_iff.2 fitting
      exact ⟨filters, entries_eq_ok_iff.2 denoted⟩
  · obtain ⟨members, rfl, denoted⟩ := parse_eq_ok_iff.1 read
    exact validate_of_forall₂ denoted

/-- Two conditions on one field and one that ignores case are read as they were written. -/
theorem three_conditions_are_read :
    let filters : FilterSet := [⟨"price", .numeric (.greaterOrEqual (.ofInt 5))⟩,
      ⟨"price", .numeric (.between (.ofInt 1) (.ofInt 9))⟩, ⟨"name", .text .contains "al" true⟩]
    parse (ofFilters filters) = .ok filters := by
  have atLeast : Denotes ("price>=", .ofBinary64 (.ofInt 5))
      ⟨"price", .numeric (.greaterOrEqual (.ofInt 5))⟩ :=
    ⟨.greaterEq, by decide, rfl,
      @means_comparison .greaterEq .greaterOrEqual (.ofInt 5) rfl (by decide +kernel)⟩
  have within : Denotes ("price><", .array [.ofBinary64 (.ofInt 1), .ofBinary64 (.ofInt 9)])
      ⟨"price", .numeric (.between (.ofInt 1) (.ofInt 9))⟩ :=
    ⟨.range, by decide, rfl,
      means_range (by decide +kernel) (by decide +kernel) (by decide +kernel)⟩
  have named : Denotes ("name~*", .text "al") ⟨"name", .text .contains "al" true⟩ :=
    ⟨.substringIgnoringCase, by decide, rfl, .relation rfl "al"⟩
  exact parse_reads_grammar.2.2.2.2 _ (List.forall_mem_cons.2 ⟨⟨_, atLeast⟩, List.forall_mem_cons.2
    ⟨⟨_, within⟩, List.forall_mem_singleton.2 ⟨_, named⟩⟩⟩) (by decide +kernel)

/-- The bounds of a range may be reversed if rounding makes them equal. -/
theorem reversed_bounds_are_read :
    (2 ^ 53 : Int) < 2 ^ 53 + 1 ∧
      parse (.object [("f><", .array [.ofInt (2 ^ 53 + 1), .ofInt (2 ^ 53)])]) =
        .ok [⟨"f", .numeric (.between (.ofInt (2 ^ 53)) (.ofInt (2 ^ 53)))⟩] := by
  refine ⟨by decide, entries_eq_ok_iff.2 (.cons ⟨.range, by decide, rfl, ?_⟩ .nil)⟩
  have rounded : Binary64.ofInt (2 ^ 53 + 1) = Binary64.ofInt (2 ^ 53) := by decide +kernel
  have ordered : (Binary64.ofInt (2 ^ 53 + 1)).lessOrEqual (Binary64.ofInt (2 ^ 53)) = true := by
    decide +kernel
  have range := @Suffix.Means.range (.integer (2 ^ 53 + 1) (by decide))
    (.integer (2 ^ 53) (by decide)) ordered
  rwa [FieldValue.binary64Of, FieldValue.binary64Of, rounded] at range

end Shorthand

end RecordStore
