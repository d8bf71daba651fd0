import Mathlib.Data.Set.CoeSort
import Mathlib.Data.Set.Operations
import RecordStore.Binary64.Basic
import RecordStore.Ordering
import RecordStore.Timestamp.Basic

/-!
# Comparisons that are orders

The comparisons of numbers and of instants are total orders. A comparison that changes its rule
with the kinds of what it compares is made of such ones, and need not be an order.

* `compare_div_mod`, `compareLex_append` — comparisons of numbers and of lists in two parts;
* `compareIn` — a comparison on the elements of a set;
* `compareMaybe` — a comparison with a missing value as the minimum;
* `compareMixed` — values of two kinds, two of the first kind compared exactly and all others by a
  key; `transCmp_compareMixed_iff` says on which sets this is transitive.
-/

namespace RecordStore

open Std

/-! ### The comparisons of numbers and instants -/

instance : TransCmp Timestamp.compare :=
  have := transCmp_comap Ord.compare Timestamp.seconds
  have := transCmp_comap Ord.compare Timestamp.nanos
  inferInstanceAs (TransCmp (compareLex (fun s t : Timestamp => Ord.compare s.seconds t.seconds)
    fun s t : Timestamp => Ord.compare s.nanos t.nanos))

instance : LawfulEqCmp Timestamp.compare where
  eq_of_compare := by
    rintro ⟨seconds, nanos, _⟩ ⟨seconds', nanos', _⟩ h
    obtain ⟨h, h'⟩ := Ordering.then_eq_eq.1 h
    obtain rfl : seconds = seconds' := LawfulEqCmp.eq_of_compare h
    obtain rfl : nanos = nanos' := LawfulEqCmp.eq_of_compare h'
    rfl

namespace Binary64

theorem exists_signedRank_of_isFinite {x : Binary64} (h : x.isFinite = true) :
    ∃ r, x.signedRank? = some r := by
  cases x with
  | nan negative => cases h
  | real negative rank => exact ⟨_, rfl⟩

section Ranks

variable {x y : Binary64} {j k : Int}

/-- Numbers compare as their signed ranks. -/
theorem compare?_of_ranks (hx : x.signedRank? = some j) (hy : y.signedRank? = some k) :
    x.compare? y = some (Ord.compare j k) := by
  rw [compare?, hx, hy]

theorem less_iff (hx : x.signedRank? = some j) (hy : y.signedRank? = some k) :
    x.less y = true ↔ j < k := by
  rw [less, compare?_of_ranks hx hy, beq_iff_eq, Option.some.injEq, Int.compare_eq_lt]

theorem equals_iff (hx : x.signedRank? = some j) (hy : y.signedRank? = some k) :
    x.equals y = true ↔ j = k := by
  rw [equals, compare?_of_ranks hx hy, beq_iff_eq, Option.some.injEq]
  exact LawfulEqCmp.compare_eq_iff_eq

theorem lessOrEqual_iff (hx : x.signedRank? = some j) (hy : y.signedRank? = some k) :
    x.lessOrEqual y = true ↔ j ≤ k := by
  rw [lessOrEqual, Bool.or_eq_true, less_iff hx hy, equals_iff hx hy, Int.le_iff_lt_or_eq]

/-- The total order only tells more numbers apart. -/
theorem le_of_totalKey_le (hx : x.signedRank? = some j) (hy : y.signedRank? = some k)
    (h : x.totalKey ≤ y.totalKey) : j ≤ k := by
  rcases x with _ | ⟨(_ | _), r⟩ <;> cases hx <;> rcases y with _ | ⟨(_ | _), r'⟩ <;> cases hy <;>
    simp only [totalKey] at h <;> simp <;> omega

end Ranks

/-- Different values have different places in the total order. -/
theorem totalKey_injective {x y : Binary64} (h : x.totalKey = y.totalKey) : x = y := by
  rcases x with (_ | _) | ⟨(_ | _), r⟩ <;> rcases y with (_ | _) | ⟨(_ | _), r'⟩ <;>
    simp only [totalKey] at h
  -- the keys of the two signs and of the two NaNs do not overlap
  all_goals first
    | rfl
    | exact congrArg _ (Fin.ext (by omega))
    | omega

instance : TransCmp totalCompare := transCmp_comap Ord.compare totalKey

instance : LawfulEqCmp totalCompare := lawfulEqCmp_comap Ord.compare totalKey_injective

end Binary64

/-! ### Comparing part by part -/

theorem ordering_eq_iff {o p : Ordering} : o = p ↔ (o = .lt ↔ p = .lt) ∧ (o = .gt ↔ p = .gt) := by
  cases o <;> cases p <;> decide

/-- Numbers are in order if what they are divided is, or what is left over where that is the same. -/
theorem lt_iff_div_mod (k a b : Nat) : a < b ↔ a / k < b / k ∨ a / k = b / k ∧ a % k < b % k := by
  have ha := Nat.div_add_mod a k
  have hb := Nat.div_add_mod b k
  rcases Nat.lt_trichotomy (a / k) (b / k) with less | same | more
  · exact iff_of_true (Nat.lt_of_div_lt_div less) (.inl less)
  · rw [same] at ha
    omega
  · have := Nat.lt_of_div_lt_div more
    omega

theorem compare_div_mod (k a b : Nat) :
    Ord.compare a b = (Ord.compare (a / k) (b / k)).then (Ord.compare (a % k) (b % k)) := by
  rw [ordering_eq_iff]
  simp only [Ordering.then_eq_lt, Ordering.then_eq_gt, Nat.compare_eq_lt, Nat.compare_eq_gt,
    Nat.compare_eq_eq]
  have less := lt_iff_div_mod k a b
  have more := lt_iff_div_mod k b a
  omega

theorem compareLex_append {α : Type} (cmp : α → α → Ordering) {as bs : List α}
    (h : as.length = bs.length) (cs ds : List α) :
    List.compareLex cmp (as ++ cs) (bs ++ ds) =
      (List.compareLex cmp as bs).then (List.compareLex cmp cs ds) := by
  induction as generalizing bs with
  | nil =>
    obtain rfl : bs = [] := List.length_eq_zero_iff.1 h.symm
    rfl
  | cons a as ih =>
    cases bs with
    | nil => simp at h
    | cons b bs =>
      have rest : as.length = bs.length := by simpa using h
      simp only [List.cons_append, List.compareLex_cons_cons, ih rest, Ordering.then_assoc]

/-! ### Comparing the elements of a set -/

/-- The comparison of the elements of a set. -/
def compareIn {α : Type} (cmp : α → α → Ordering) (s : Set α) (a b : s) : Ordering :=
  cmp a b

/-- The comparison with a missing value as the minimum. -/
def compareMaybe {α : Type} (cmp : α → α → Ordering) : Option α → Option α → Ordering
  | none, none => .eq
  | none, some _ => .lt
  | some _, none => .gt
  | some a, some b => cmp a b

section Maybe

variable {α β : Type} {cmp : β → β → Ordering}

instance [h : OrientedCmp cmp] : OrientedCmp (compareMaybe cmp) where
  eq_swap {a b} := by
    cases a <;> cases b
    · rfl
    · rfl
    · rfl
    · exact h.eq_swap

/-- A comparison by a view that some of the values lack is as transitive as the comparison of the
views that occur. -/
theorem transCmp_compareMaybe (view : α → Option β) {s : Set α}
    (h : TransCmp (compareIn cmp {b | ∃ a ∈ s, view a = some b})) :
    TransCmp fun a b : s => compareMaybe cmp (view a) (view b) where
  eq_swap {a b} := by
    obtain ⟨a, ha⟩ := a
    obtain ⟨b, hb⟩ := b
    dsimp only
    cases va : view a <;> cases vb : view b
    · rfl
    · rfl
    · rfl
    · exact h.eq_swap (a := ⟨_, a, ha, va⟩) (b := ⟨_, b, hb, vb⟩)
  isLE_trans {a b c} := by
    obtain ⟨a, ha⟩ := a
    obtain ⟨b, hb⟩ := b
    obtain ⟨c, hc⟩ := c
    dsimp only
    -- a missing view is below all others, so that the hypothesis is needed for three views only
    cases va : view a with
    | none => cases view b <;> cases view c <;> simp [compareMaybe]
    | some x =>
      cases vb : view b with
      | none => simp [compareMaybe]
      | some y =>
        cases vc : view c with
        | none => simp [compareMaybe]
        | some z =>
          exact h.isLE_trans (a := ⟨x, a, ha, va⟩) (b := ⟨y, b, hb, vb⟩) (c := ⟨z, c, hc, vc⟩)

end Maybe

/-! ### Values of two kinds -/

/-- Compare values of two kinds: two of the first kind exactly, and all others by the key that a
value of the first kind has among those of the second. -/
def compareMixed {β κ : Type} (exact : β → β → Ordering) (byKey : κ → κ → Ordering) (key : β → κ) :
    β ⊕ κ → β ⊕ κ → Ordering
  | .inl a, .inl b => exact a b
  | .inl a, .inr k => byKey (key a) k
  | .inr k, .inl a => byKey k (key a)
  | .inr k, .inr k' => byKey k k'

section Mixed

variable {β κ : Type} {exact : β → β → Ordering} {byKey : κ → κ → Ordering} {key : β → κ}

instance [h : OrientedCmp exact] [h' : OrientedCmp byKey] :
    OrientedCmp (compareMixed exact byKey key) where
  eq_swap {a b} := by
    cases a <;> cases b
    · exact h.eq_swap
    all_goals exact h'.eq_swap

/-- The comparison of values of two kinds is transitive except where a value of the second kind
stands between the keys of two values of the first kind, the key of the larger one first. -/
theorem transCmp_compareMixed_iff [exactly : TransCmp exact] [LawfulEqCmp exact]
    [keys : TransCmp byKey] (s : Set (β ⊕ κ)) :
    TransCmp (compareIn (compareMixed exact byKey key) s) ↔
      ∀ a b k, .inl a ∈ s → .inl b ∈ s → .inr k ∈ s → exact a b = .lt →
        ¬ ((byKey (key b) k).isLE ∧ (byKey k (key a)).isLE) := by
  constructor
  · rintro h a b k ha hb hk less ⟨below, above⟩
    have : (exact b a).isLE :=
      h.isLE_trans (a := ⟨_, hb⟩) (b := ⟨_, hk⟩) (c := ⟨_, ha⟩) below above
    exact OrientedCmp.not_lt_of_isLE this less
  · intro h
    -- the keys of two values of the first kind are turned round only if nothing is between them
    have apart : ∀ a b k, .inl a ∈ s → .inl b ∈ s → .inr k ∈ s → (exact a b).isLE →
        (byKey (key b) k).isLE → (byKey (key a) k).isLE := by
      intro a b k ha hb hk le below
      rcases Ordering.isLE_iff_eq_lt_or_eq_eq.1 le with less | same
      · by_contra above
        have := OrientedCmp.lt_of_not_isLE above
        exact h a b k ha hb hk less ⟨below, Ordering.isLE_of_eq_lt this⟩
      · rwa [LawfulEqCmp.eq_of_compare same]
    have apart' : ∀ a b k, .inl a ∈ s → .inl b ∈ s → .inr k ∈ s → (exact a b).isLE →
        (byKey k (key a)).isLE → (byKey k (key b)).isLE := by
      intro a b k ha hb hk le above
      rcases Ordering.isLE_iff_eq_lt_or_eq_eq.1 le with less | same
      · by_contra below
        have := OrientedCmp.lt_of_not_isLE below
        exact h a b k ha hb hk less ⟨Ordering.isLE_of_eq_lt this, above⟩
      · rwa [← LawfulEqCmp.eq_of_compare same]
    have oriented : OrientedCmp (compareMixed exact byKey key) := inferInstance
    refine { eq_swap := oriented.eq_swap, isLE_trans := ?_ }
    -- the rules are mixed only where exactly one of the three values is of the second kind
    rintro ⟨a | k, ha⟩ ⟨b | l, hb⟩ ⟨c | m, hc⟩ hab hbc
    · exact exactly.isLE_trans hab hbc
    · exact apart a b m ha hb hc hab hbc
    · show (exact a c).isLE
      by_contra not
      have less := OrientedCmp.lt_of_not_isLE not
      exact h c a l hc ha hb less ⟨hab, hbc⟩
    · exact keys.isLE_trans hab hbc
    · exact apart' b c k hb hc ha hbc hab
    · exact keys.isLE_trans hab hbc
    · exact keys.isLE_trans hab hbc
    · exact keys.isLE_trans hab hbc

end Mixed

end RecordStore
