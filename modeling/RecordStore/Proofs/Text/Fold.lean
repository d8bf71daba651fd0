import Mathlib.Algebra.Group.Int.Defs
import Mathlib.Algebra.Group.Nat.Defs
import Mathlib.Data.List.Infix
import RecordStore.Text.Fold

/-!
# Lowercase forms and folding

Lowercasing does not change how a character folds, except for the dotted capital I, the lowercase
form of which has two characters. So texts with the same lowercase form fold alike. The converse
fails where letters that lowercasing keeps apart are folded to one, as the two small sigmas are.

* `Text.lowerCode_lowerCode` — lowercase forms have no other lowercase form;
* `Text.map_fold_lowercase` — the folding of the lowercase form of a text;
* `Text.lowercase_eq_of_map_fold_eq` — texts that fold alike;
* `Text.occursIn_iff_isInfix` — search for a part of a text.
-/

namespace RecordStore.Text

/-! ### The table of lowercase forms -/

/-- The code points of a run. -/
def CaseRange.codes (run : CaseRange) : List Nat :=
  (List.range ((run.last - run.first) / run.step + 1)).map fun k => run.first + run.step * k

/-- A code point has no partner in a table, or the one in a run to which it belongs. -/
theorem lowerCode_cases (n : Nat) (table : List CaseRange) :
    lowerCode n table = n ∨
      ∃ run ∈ table, n ∈ run.codes ∧ lowerCode n table = ((n : Int) + run.offset).toNat := by
  induction table with
  | nil => exact .inl rfl
  | cons run rest ih =>
    rw [lowerCode]
    split
    · exact .inl rfl
    · next first =>
      split
      · next last =>
        split
        · next step =>
          refine .inr ⟨run, List.mem_cons_self, ?_, rfl⟩
          have place := Nat.div_add_mod (n - run.first) run.step
          rw [CaseRange.codes, List.mem_map]
          refine ⟨(n - run.first) / run.step, ?_, by omega⟩
          rw [List.mem_range]
          have inside : n - run.first ≤ run.last - run.first := by omega
          exact Nat.lt_succ_of_le (Nat.div_le_div_right inside)
        · exact .inl rfl
      · rcases ih with same | ⟨other, mem, code, partner⟩
        · exact .inl same
        · exact .inr ⟨other, List.mem_cons_of_mem _ mem, code, partner⟩

/-- The lowercase partners of the code points of a run. -/
def CaseRange.partners (run : CaseRange) : List Nat :=
  run.codes.map fun n : Nat => ((n : Int) + run.offset).toNat

/-- Numbers as the bits of one number, by which two large sets are compared at once. -/
def bitSet (codes : List Nat) : Nat := codes.foldr (fun n bits => bits ||| 2 ^ n) 0

theorem testBit_bitSet (codes : List Nat) (n : Nat) :
    (bitSet codes).testBit n = decide (n ∈ codes) := by
  induction codes with
  | nil => simp [bitSet]
  | cons m rest ih =>
    rw [bitSet, List.foldr_cons, ← bitSet, Nat.testBit_or, ih, Nat.testBit_two_pow]
    by_cases h : m = n
    · simp [h]
    · simp [h, Ne.symm h]

/-- No lowercase form has another lowercase form. -/
theorem bitSet_codes_and_partners :
    bitSet (lowercaseRanges.flatMap CaseRange.codes) &&&
      bitSet (lowercaseRanges.flatMap CaseRange.partners) = 0 := by
  decide +kernel

theorem isValidChar_partners :
    ∀ m ∈ lowercaseRanges.flatMap CaseRange.partners, m.isValidChar := by
  decide +kernel

theorem lowerCode_lowerCode (n : Nat) :
    lowerCode (lowerCode n lowercaseRanges) lowercaseRanges = lowerCode n lowercaseRanges := by
  rcases lowerCode_cases n lowercaseRanges with same | ⟨run, mem, code, partner⟩
  · rw [same, same]
  rcases lowerCode_cases (lowerCode n lowercaseRanges) lowercaseRanges with
    same | ⟨run', mem', code', -⟩
  · exact same
  · -- the lowercase form would be in both sets
    have asCode : lowerCode n lowercaseRanges ∈ lowercaseRanges.flatMap CaseRange.codes :=
      List.mem_flatMap.2 ⟨run', mem', code'⟩
    have asPartner : lowerCode n lowercaseRanges ∈ lowercaseRanges.flatMap CaseRange.partners :=
      List.mem_flatMap.2 ⟨run, mem, List.mem_map.2 ⟨n, code, partner.symm⟩⟩
    have both := congrArg (Nat.testBit · (lowerCode n lowercaseRanges)) bitSet_codes_and_partners
    rw [Nat.testBit_and, testBit_bitSet, testBit_bitSet, decide_eq_true asCode,
      decide_eq_true asPartner, Nat.zero_testBit] at both
    cases both

theorem isValidChar_lowerCode (c : Char) : (lowerCode c.toNat lowercaseRanges).isValidChar := by
  rcases lowerCode_cases c.toNat lowercaseRanges with same | ⟨run, mem, code, partner⟩
  · rw [same]
    exact c.valid
  · refine isValidChar_partners _ (List.mem_flatMap.2 ⟨run, mem, List.mem_map.2 ⟨_, code, ?_⟩⟩)
    exact partner.symm

/-! ### Folding lowercase forms -/

/-- The lowercase form of a character folds like the character. -/
theorem fold_lowerCode (c : Char) :
    fold (Char.ofNat (lowerCode c.toNat lowercaseRanges)) = fold c := by
  have place : (Char.ofNat (lowerCode c.toNat lowercaseRanges)).toNat =
      lowerCode c.toNat lowercaseRanges := by
    rw [Char.ofNat, dif_pos (isValidChar_lowerCode c)]
    rfl
  rw [fold, fold, place, foldCode, foldCode, lowerCode_lowerCode]

/-- Lowercasing a text does not change how it folds, unless there is a dotted capital I in it. -/
theorem map_fold_lowerAfter {cs : List Char} (undotted : 'İ' ∉ cs) (before : List Char) :
    (lowerAfter before cs).map fold = cs.map fold := by
  induction cs generalizing before with
  | nil => rfl
  | cons c rest ih =>
    obtain ⟨first, others⟩ := not_or.1 (mt List.mem_cons.2 undotted)
    have form : (if c = 'Σ' then
        if startsCased before && !startsCased rest then ['ς'] else ['σ']
        else lowerChar c).map fold = [fold c] := by
      by_cases sigma : c = 'Σ'
      · -- both small sigmas fold to the same letter as the capital
        rw [if_pos sigma, sigma]
        split <;> decide +kernel
      · rw [if_neg sigma, lowerChar, if_neg (Ne.symm first), List.map_singleton, fold_lowerCode]
    rw [lowerAfter]
    simp only [List.map_append, form, ih others, List.map_cons, List.singleton_append]

theorem map_fold_lowercase {s : String} (undotted : 'İ' ∉ s.toList) :
    (lowercase s).toList.map fold = s.toList.map fold := by
  rw [lowercase, String.toList_ofList]
  exact map_fold_lowerAfter undotted []

/-! ### Texts that fold alike -/

/-- Without a capital sigma a text is lowercased character by character. -/
theorem lowerAfter_eq_flatMap {cs : List Char} (noSigma : 'Σ' ∉ cs) (before : List Char) :
    lowerAfter before cs = cs.flatMap lowerChar := by
  induction cs generalizing before with
  | nil => rfl
  | cons c rest ih =>
    obtain ⟨first, others⟩ := not_or.1 (mt List.mem_cons.2 noSigma)
    rw [lowerAfter, ih others, List.flatMap_cons, if_neg (Ne.symm first)]

/-- Texts that fold alike have the same lowercase form if there is no capital sigma in them and each
two of their characters that fold alike have the same one. -/
theorem lowercase_eq_of_map_fold_eq {s t : String} (noSigma : 'Σ' ∉ s.toList)
    (noSigma' : 'Σ' ∉ t.toList)
    (alike : ∀ c ∈ s.toList, ∀ d ∈ t.toList, fold c = fold d → lowerChar c = lowerChar d)
    (same : s.toList.map fold = t.toList.map fold) : lowercase s = lowercase t := by
  rw [lowercase, lowercase, lowerAfter_eq_flatMap noSigma, lowerAfter_eq_flatMap noSigma']
  generalize s.toList = cs at *
  generalize t.toList = ds at *
  congr 1
  clear noSigma noSigma'
  induction cs generalizing ds with
  | nil =>
    obtain rfl : ds = [] := by simpa [eq_comm] using same
    rfl
  | cons c cs ih =>
    obtain ⟨d, ds, rfl⟩ : ∃ d rest, ds = d :: rest := by
      cases ds with
      | nil => cases same
      | cons d rest => exact ⟨d, rest, rfl⟩
    rw [List.map_cons, List.map_cons, List.cons.injEq] at same
    rw [List.flatMap_cons, List.flatMap_cons,
      alike c List.mem_cons_self d List.mem_cons_self same.1,
      ih ds (fun c' mem d' mem' =>
        alike c' (List.mem_cons_of_mem _ mem) d' (List.mem_cons_of_mem _ mem')) same.2]

/-! ### Parts of texts -/

theorem occursIn_iff_isInfix {part text : List Char} :
    occursIn part text = true ↔ part <:+: text := by
  induction text with
  | nil => rw [occursIn, List.isEmpty_iff, List.infix_nil]
  | cons c rest ih =>
    rw [occursIn, Bool.or_eq_true, ih, List.isPrefixOf_iff_prefix, List.infix_cons_iff]

end RecordStore.Text
