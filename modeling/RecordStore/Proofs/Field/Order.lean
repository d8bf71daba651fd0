import RecordStore.Field
import RecordStore.Proofs.Binary64.Rounding
import RecordStore.Text.Order

/-!
# Where the order of field values is an order

The comparison used by sorting changes its rule with the kinds of the values. Two integers are
compared exactly and an integer with a floating-point number after rounding; two instants are
compared as instants and an instant with a text as texts. Each of the two pairs of rules agrees with
itself except on certain values.

* `FieldValue.compareOptional_eq` — the comparison goes by the kind first, and then by a rule of the
  kind;
* `FieldValue.transCmp_compareOptional_iff` — the sets on which it is a total preorder.
-/

namespace RecordStore.FieldValue

open Std

/-! ### The rules of the comparison -/

/-- An integer or a floating-point number as a field value. -/
def ofNumber : Int64 ⊕ Binary64 → FieldValue
  | .inl i => .integer i
  | .inr x => .float x

/-- An instant or a text as a field value. -/
def ofTextual : Timestamp ⊕ String → FieldValue
  | .inl t => .instant t
  | .inr s => .text s

/-- The number of a numeric value, as it is. -/
def number? : FieldValue → Option (Int64 ⊕ Binary64)
  | .integer i => some (.inl i)
  | .float x => some (.inr x)
  | _ => none

/-- The instant or the text of a value that counts as text. -/
def textual? : FieldValue → Option (Timestamp ⊕ String)
  | .instant t => some (.inl t)
  | .text s => some (.inr s)
  | _ => none

/-- The text of a JSON value. -/
def document? : FieldValue → Option String
  | .json v => some v.print
  | _ => none

/-- The place of a value among the kinds; the two truth values have places of their own. -/
def place : Option FieldValue → Nat
  | none => 0
  | some .null => 1
  | some (.boolean false) => 2
  | some (.boolean true) => 3
  | some (.integer _) => 4
  | some (.float _) => 4
  | some (.text _) => 5
  | some (.instant _) => 5
  | some (.json _) => 6

/-- Numbers: two integers exactly, all others by the total order after rounding. -/
def compareNumber : Int64 ⊕ Binary64 → Int64 ⊕ Binary64 → Ordering :=
  compareMixed (fun i j => Ord.compare i.toInt j.toInt) Binary64.totalCompare
    fun i => .ofInt i.toInt

/-- Texts: two instants as instants, all others by their texts. -/
def compareTextual : Timestamp ⊕ String → Timestamp ⊕ String → Ordering :=
  compareMixed Timestamp.compare Text.compare Timestamp.text

theorem ofNumber_of_number? {v : FieldValue} {n : Int64 ⊕ Binary64} :
    v.number? = some n ↔ v = ofNumber n := by
  cases v <;> rcases n with i | x <;> simp [number?, ofNumber]

theorem ofTextual_of_textual? {v : FieldValue} {t : Timestamp ⊕ String} :
    v.textual? = some t ↔ v = ofTextual t := by
  cases v <;> rcases t with t | s <;> simp [textual?, ofTextual]

theorem compare_ofNumber (m n : Int64 ⊕ Binary64) :
    (ofNumber m).compare (ofNumber n) = compareNumber m n := by
  cases m <;> cases n <;> rfl

theorem compare_ofTextual (t u : Timestamp ⊕ String) :
    (ofTextual t).compare (ofTextual u) = compareTextual t u := by
  cases t <;> cases u <;> simp only [ofTextual, compareTextual, compareMixed] <;> rfl

/-- The rule for values of one place. Each view is missing from all kinds but one. -/
def compareWithin (a b : Option FieldValue) : Ordering :=
  (compareMaybe compareNumber (a.bind number?) (b.bind number?)).then
    ((compareMaybe compareTextual (a.bind textual?) (b.bind textual?)).then
      (compareMaybe Text.compare (a.bind document?) (b.bind document?)))

theorem compareOptional_of_place_ne {a b : Option FieldValue} (h : place a ≠ place b) :
    compareOptional a b = Ord.compare (place a) (place b) := by
  rcases a with _ | (⟨_ | _⟩ | _ | _ | _ | _ | _ | _) <;>
    rcases b with _ | (⟨_ | _⟩ | _ | _ | _ | _ | _ | _)
  all_goals first
    | exact absurd rfl h
    | rfl

theorem compareOptional_of_place_eq {a b : Option FieldValue} (h : place a = place b) :
    compareOptional a b = compareWithin a b := by
  rcases a with _ | (⟨_ | _⟩ | _ | _ | _ | _ | _ | _) <;>
    rcases b with _ | (⟨_ | _⟩ | _ | _ | _ | _ | _ | _) <;>
    simp [place] at h
  -- at most one view of the two values is there, and the comparison of the others is a tie
  all_goals
    simp only [compareWithin, Option.bind_some, Option.bind_none, number?, textual?, document?,
      compareMaybe, compareNumber, compareTextual, compareMixed, Ordering.then_eq, Ordering.eq_then]
    rfl

/-- The comparison goes by the places of the values first. -/
theorem compareOptional_eq :
    compareOptional = compareLex (fun a b => Ord.compare (place a) (place b)) compareWithin := by
  funext a b
  rw [compareLex]
  by_cases h : place a = place b
  · rw [h, Nat.compare_eq_eq.2 rfl, Ordering.eq_then]
    exact compareOptional_of_place_eq h
  · rw [compareOptional_of_place_ne h]
    cases decided : Ord.compare (place a) (place b) with
    | eq => exact absurd (Nat.compare_eq_eq.1 decided) h
    | lt | gt => rfl

/-! ### Comparing the other way round -/

instance : OrientedCmp compareNumber :=
  have := orientedCmp_comap Ord.compare Int64.toInt
  inferInstanceAs (OrientedCmp (compareMixed _ _ _))

instance : OrientedCmp compareTextual := inferInstanceAs (OrientedCmp (compareMixed _ _ _))

/-- The comparison the other way round has the opposite outcome. -/
instance : OrientedCmp compareOptional := by
  have places := orientedCmp_comap Ord.compare place
  have numbers := orientedCmp_comap (compareMaybe compareNumber) (Option.bind · number?)
  have texts := orientedCmp_comap (compareMaybe compareTextual) (Option.bind · textual?)
  have documents := orientedCmp_comap (compareMaybe Text.compare) (Option.bind · document?)
  have within : OrientedCmp compareWithin :=
    inferInstanceAs (OrientedCmp (compareLex _ (compareLex _ _)))
  rw [compareOptional_eq]
  infer_instance

/-! ### Where the comparison is transitive -/

/-- Some floating-point number of `s` is the one nearest to two different integers of `s`. -/
def BlursIntegers (s : Set (Option FieldValue)) : Prop :=
  ∃ i j x, some (.integer i) ∈ s ∧ some (.integer j) ∈ s ∧ some (.float x) ∈ s ∧
    i ≠ j ∧ Binary64.ofInt i.toInt = x ∧ Binary64.ofInt j.toInt = x

/-- Some text of `s` stands between the texts of two instants of `s`, that of the later one
first. -/
def CrossesInstants (s : Set (Option FieldValue)) : Prop :=
  ∃ t u w, some (.instant t) ∈ s ∧ some (.instant u) ∈ s ∧ some (.text w) ∈ s ∧
    t.compare u = .lt ∧ (Text.compare u.text w).isLE ∧ (Text.compare w t.text).isLE

variable {s : Set (Option FieldValue)}

/-- The two kinds of numbers are in order exactly if no two integers are blurred. -/
theorem transCmp_compareNumber_iff :
    TransCmp (compareIn compareNumber {n | some (ofNumber n) ∈ s}) ↔ ¬ BlursIntegers s := by
  have := transCmp_comap Ord.compare Int64.toInt
  have := lawfulEqCmp_comap Ord.compare (f := Int64.toInt) Int64.toInt_inj.1
  rw [compareNumber, transCmp_compareMixed_iff]
  constructor
  · rintro h ⟨i, j, x, hi, hj, hx, ne, ri, rj⟩
    have meets : Binary64.totalCompare x x = .eq := ReflCmp.compare_self
    rcases Int.lt_or_gt_of_ne fun same => ne (Int64.toInt_inj.1 same) with less | less
    · refine h i j x hi hj hx (Int.compare_eq_lt.2 less) ?_
      rw [ri, rj, meets]
      exact ⟨rfl, rfl⟩
    · refine h j i x hj hi hx (Int.compare_eq_lt.2 less) ?_
      rw [ri, rj, meets]
      exact ⟨rfl, rfl⟩
  · rintro h i j x hi hj hx less ⟨below, above⟩
    -- rounding keeps the order, so the number between the two is the nearest one of both
    have less : i.toInt < j.toInt := Int.compare_eq_lt.1 less
    have below : (Binary64.ofInt j.toInt).totalKey ≤ x.totalKey := Int.isLE_compare.1 below
    have above : x.totalKey ≤ (Binary64.ofInt i.toInt).totalKey := Int.isLE_compare.1 above
    have mono := Binary64.ofInt_mono (Int.le_of_lt less)
    refine h ⟨i, j, x, hi, hj, hx, ?_, ?_, ?_⟩
    · rintro rfl
      omega
    · exact Binary64.totalKey_injective (by omega)
    · exact Binary64.totalKey_injective (by omega)

/-- Instants and texts are in order exactly if no two instants are crossed. -/
theorem transCmp_compareTextual_iff :
    TransCmp (compareIn compareTextual {t | some (ofTextual t) ∈ s}) ↔ ¬ CrossesInstants s := by
  rw [compareTextual, transCmp_compareMixed_iff]
  constructor
  · rintro h ⟨t, u, w, ht, hu, hw, earlier, between⟩
    exact h t u w ht hu hw earlier between
  · rintro h t u w ht hu hw earlier ⟨below, above⟩
    exact h ⟨t, u, w, ht, hu, hw, earlier, below, above⟩

/-- The comparison is as transitive as its rules for numbers and for texts. -/
theorem transCmp_compareIn_iff :
    TransCmp (compareIn compareOptional s) ↔
      TransCmp (compareIn compareNumber {n | some (ofNumber n) ∈ s}) ∧
        TransCmp (compareIn compareTextual {t | some (ofTextual t) ∈ s}) := by
  constructor
  · intro h
    -- numbers and texts are some of the values
    have numbers := transCmp_comap (compareIn compareOptional s)
      fun n : {n | some (ofNumber n) ∈ s} => ⟨some (ofNumber n.1), n.2⟩
    have texts := transCmp_comap (compareIn compareOptional s)
      fun t : {t | some (ofTextual t) ∈ s} => ⟨some (ofTextual t.1), t.2⟩
    simp only [compareIn, compareOptional, compare_ofNumber] at numbers
    simp only [compareIn, compareOptional, compare_ofTextual] at texts
    exact ⟨numbers, texts⟩
  · rintro ⟨numbers, texts⟩
    have numberViews : {n | some (ofNumber n) ∈ s} = {n | ∃ v ∈ s, v.bind number? = some n} := by
      ext n
      simp [Option.bind_eq_some_iff, ofNumber_of_number?]
    have textualViews :
        {t | some (ofTextual t) ∈ s} = {t | ∃ v ∈ s, v.bind textual? = some t} := by
      ext t
      simp [Option.bind_eq_some_iff, ofTextual_of_textual?]
    rw [numberViews] at numbers
    rw [textualViews] at texts
    have places := transCmp_comap Ord.compare fun v : s => place v
    have numbers := transCmp_compareMaybe (Option.bind · number?) numbers
    have texts := transCmp_compareMaybe (Option.bind · textual?) texts
    have documents : TransCmp fun a b : s =>
        compareMaybe Text.compare (a.1.bind document?) (b.1.bind document?) :=
      transCmp_compareMaybe (Option.bind · document?) (transCmp_comap Text.compare Subtype.val)
    rw [compareOptional_eq]
    exact inferInstanceAs (TransCmp (compareLex (fun a b : s => Ord.compare (place a) (place b))
      (compareLex _ (compareLex _ _))))

/-- Values are in order if they do not mix integers with floating-point numbers, nor instants with
texts. -/
theorem transCmp_of_unmixed (numbers : ∀ i x, some (.integer i) ∈ s → some (.float x) ∉ s)
    (texts : ∀ t w, some (.instant t) ∈ s → some (.text w) ∉ s) :
    TransCmp (compareIn compareOptional s) := by
  rw [transCmp_compareIn_iff, transCmp_compareNumber_iff, transCmp_compareTextual_iff]
  constructor
  · rintro ⟨i, _, x, hi, _, hx, _⟩
    exact numbers i x hi hx
  · rintro ⟨t, _, w, ht, _, hw, _⟩
    exact texts t w ht hw

/-- The comparison the other way round always has the opposite outcome, and on a set of values the
comparison is transitive exactly if the set has no number that blurs two integers and no text that
crosses two instants. -/
theorem transCmp_compareOptional_iff (s : Set (Option FieldValue)) :
    OrientedCmp compareOptional ∧
      (TransCmp (compareIn compareOptional s) ↔ ¬ BlursIntegers s ∧ ¬ CrossesInstants s) := by
  refine ⟨inferInstance, ?_⟩
  rw [transCmp_compareIn_iff, transCmp_compareNumber_iff, transCmp_compareTextual_iff]

/-- The comparison is not transitive. The floating-point number `2 ^ 53` is equal to the integers
`2 ^ 53 + 1` and `2 ^ 53`, which differ; and the text of an instant of the year 10000 begins with a
sign, which comes before all digits. -/
theorem compareOptional_not_transitive :
    let wide : Option FieldValue := some (.integer 9007199254740993)
    let nearest : Option FieldValue := some (.float (.ofInt 9007199254740992))
    let narrow : Option FieldValue := some (.integer 9007199254740992)
    let later : Option FieldValue := some (.instant (.ofSeconds 253402302600))
    let digit : Option FieldValue := some (.text "1")
    let earlier : Option FieldValue := some (.instant (.ofSeconds 946684800))
    (compareOptional wide nearest = .eq ∧ compareOptional nearest narrow = .eq ∧
      compareOptional wide narrow = .gt) ∧
    (compareOptional later digit = .lt ∧ compareOptional digit earlier = .lt ∧
      compareOptional later earlier = .gt) ∧
    ¬ TransCmp compareOptional := by
  intro wide nearest narrow later digit earlier
  have rounded : compareOptional wide nearest = .eq := by decide
  have exactly : compareOptional nearest narrow = .eq := by decide
  have larger : compareOptional wide narrow = .gt := by decide
  have sign : compareOptional later digit = .lt := by decide +kernel
  have year : compareOptional digit earlier = .lt := by decide +kernel
  have after : compareOptional later earlier = .gt := by decide
  refine ⟨⟨rounded, exactly, larger⟩, ⟨sign, year, after⟩, fun h => ?_⟩
  exact nomatch larger.symm.trans (h.eq_trans rounded exactly)

end RecordStore.FieldValue
