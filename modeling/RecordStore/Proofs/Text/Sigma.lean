import Mathlib.Data.List.Infix
import Mathlib.Data.List.TakeWhile
import RecordStore.Text.Lowercase

/-!
# Lowercase forms of parts of a text

The lowercase form of a text is made of those of its parts, except for the capital sigma, whose form
depends on the letters around it. What stands behind a part only matters for a capital sigma that
nothing but skipped characters follow, and what stands before it for one that only they precede.

* `Text.lowerWithin` — the lowercase form of a part, and `Text.lowerWithin_append`;
* `Text.EndsOpen`, `Text.BeginsOpen` — whether the neighbours behind and before a part matter;
* `Text.lowerWithin_eq_lowerAfter` — a part for which they do not matter;
* `Text.not_infix_of_endsOpen`, `Text.not_infix_of_beginsOpen` — parts that are lost.
-/

namespace RecordStore.Text

/-! ### Parts -/

/-- The lowercase form of a character between those before it, the nearest one first, and those
after it. -/
def formAt (before : List Char) (c : Char) (after : List Char) : List Char :=
  if c = 'Σ' then if startsCased before && !startsCased after then ['ς'] else ['σ'] else lowerChar c

/-- The lowercase form of a part of a text between the characters before it, the nearest one first,
and those after it. -/
def lowerWithin (before : List Char) : List Char → List Char → List Char
  | [], _ => []
  | c :: rest, after => formAt before c (rest ++ after) ++ lowerWithin (c :: before) rest after

variable {before after before' after' s : List Char}

theorem lowerAfter_eq_lowerWithin (before cs : List Char) :
    lowerAfter before cs = lowerWithin before cs [] := by
  induction cs generalizing before with
  | nil => rfl
  | cons c rest ih =>
    rw [lowerAfter, ih, lowerWithin, List.append_nil]
    rfl

theorem lowerWithin_append (before cs ds after : List Char) :
    lowerWithin before (cs ++ ds) after =
      lowerWithin before cs (ds ++ after) ++ lowerWithin (cs.reverse ++ before) ds after := by
  induction cs generalizing before with
  | nil => rfl
  | cons c rest ih =>
    rw [List.cons_append, lowerWithin, ih, lowerWithin, List.append_assoc, List.append_assoc,
      List.reverse_cons, List.append_assoc, List.singleton_append]

/-- Only the capital sigma has more than one form. -/
theorem formAt_of_ne {c : Char} (h : c ≠ 'Σ') : formAt before c after = lowerChar c := if_neg h

/-- A relation between the forms of each capital sigma of a part in two texts holds between those of
the part if it respects appending. -/
theorem lowerWithin_related {R : List Char → List Char → Prop} (same : ∀ l, R l l)
    (append : ∀ {a b c d}, R a b → R c d → R (a ++ c) (b ++ d))
    (forms : ∀ a r, s = a ++ 'Σ' :: r → R (formAt (a.reverse ++ before) 'Σ' (r ++ after))
      (formAt (a.reverse ++ before') 'Σ' (r ++ after'))) :
    R (lowerWithin before s after) (lowerWithin before' s after') := by
  induction s generalizing before before' with
  | nil => exact same []
  | cons c rest ih =>
    refine append ?_ (ih fun a r split => ?_)
    · by_cases sigma : c = 'Σ'
      · subst sigma
        exact forms [] rest rfl
      · rw [formAt_of_ne sigma, formAt_of_ne sigma]
        exact same _
    · have := forms (c :: a) r (by rw [split, List.cons_append])
      simpa using this

/-! ### What stands around a part -/

theorem startsCased_of_all {cs : List Char} (skipped : cs.all isCaseIgnorable = true) :
    startsCased cs = false := by
  have none : cs.dropWhile isCaseIgnorable = [] :=
    List.dropWhile_eq_nil_iff.2 (List.all_eq_true.1 skipped)
  rw [startsCased, none]

theorem startsCased_append (cs ds : List Char) :
    startsCased (cs ++ ds) =
      if cs.all isCaseIgnorable = true then startsCased ds else startsCased cs := by
  induction cs with
  | nil => rfl
  | cons c rest ih =>
    by_cases skipped : isCaseIgnorable c = true
    · simpa [startsCased, skipped] using ih
    · simp [startsCased, skipped]

/-- Whether a text ends with a capital sigma, but for characters that are skipped, behind a cased
letter: what follows the text decides on its form. -/
def EndsOpen (s : List Char) : Prop :=
  ∃ a r, s = a ++ 'Σ' :: r ∧ startsCased a.reverse = true ∧ r.all isCaseIgnorable = true

/-- Whether a text begins with a capital sigma, but for characters that are skipped, and no cased
letter after it: what precedes the text decides on its form. -/
def BeginsOpen (s : List Char) : Prop :=
  ∃ a r, s = a ++ 'Σ' :: r ∧ a.all isCaseIgnorable = true ∧ startsCased r = false

/-- A part has the same lowercase form in a text as on its own unless a neighbour decides on it. -/
theorem lowerWithin_eq_lowerAfter (behind : after = [] ∨ ¬ EndsOpen s)
    (front : before = [] ∨ ¬ BeginsOpen s) : lowerWithin before s after = lowerAfter [] s := by
  rw [lowerAfter_eq_lowerWithin]
  refine lowerWithin_related (fun _ => rfl) (fun h h' => congrArg₂ _ h h') fun a r split => ?_
  -- a neighbour only decides if nothing but skipped characters lies between it and the sigma
  have closedBehind : after = [] ∨ r.all isCaseIgnorable = false ∨
      startsCased a.reverse = false := by
    refine behind.imp_right fun closed => ?_
    by_contra h
    simp only [not_or, Bool.not_eq_false] at h
    exact closed ⟨a, r, split, h.2, h.1⟩
  have closedFront : before = [] ∨ a.all isCaseIgnorable = false ∨ startsCased r = true := by
    refine front.imp_right fun closed => ?_
    by_contra h
    simp only [not_or, Bool.not_eq_false, Bool.not_eq_true] at h
    exact closed ⟨a, r, split, h.1, h.2⟩
  have skippedFront := @startsCased_of_all a.reverse
  have skippedBehind := @startsCased_of_all r
  rw [List.all_reverse] at skippedFront
  rw [formAt, formAt, List.append_nil, List.append_nil, startsCased_append, startsCased_append,
    List.all_reverse]
  have none : startsCased [] = false := rfl
  grind

variable {t : List Char}

theorem infix_lowerAfter (closedBehind : ¬ EndsOpen s) (closedFront : ¬ BeginsOpen s)
    (part : s <:+: t) : lowerAfter [] s <:+: lowerAfter [] t := by
  obtain ⟨front, behind, rfl⟩ := part
  rw [lowerAfter_eq_lowerWithin [] (front ++ s ++ behind), lowerWithin_append, lowerWithin_append,
    lowerWithin_eq_lowerAfter (.inr closedBehind) (.inr closedFront)]
  exact ⟨_, _, rfl⟩

theorem prefix_lowerAfter (closed : ¬ EndsOpen s) (part : s <+: t) :
    lowerAfter [] s <+: lowerAfter [] t := by
  obtain ⟨behind, rfl⟩ := part
  rw [lowerAfter_eq_lowerWithin [] (s ++ behind), lowerWithin_append,
    lowerWithin_eq_lowerAfter (.inr closed) (.inl rfl)]
  exact List.prefix_append _ _

theorem suffix_lowerAfter (closed : ¬ BeginsOpen s) (part : s <:+ t) :
    lowerAfter [] s <:+ lowerAfter [] t := by
  obtain ⟨front, rfl⟩ := part
  rw [lowerAfter_eq_lowerWithin [] (front ++ s), lowerWithin_append,
    lowerWithin_eq_lowerAfter (.inl rfl) (.inr closed)]
  exact List.suffix_append _ _

/-! ### Parts that are lost -/

section Count

variable {letter : Char}

/-- A letter that no capital sigma has more often in the first text is not more often in the form of
a part there. -/
theorem count_lowerWithin_le (forms : ∀ p q, (formAt (p ++ before) 'Σ' (q ++ after)).count letter ≤
    (formAt (p ++ before') 'Σ' (q ++ after')).count letter) (s : List Char) :
    (lowerWithin before s after).count letter ≤ (lowerWithin before' s after').count letter := by
  refine @lowerWithin_related before after before' after' s
    (fun l l' => l.count letter ≤ l'.count letter) (fun _ => Nat.le_refl _) (fun h h' => ?_)
    fun a r _ => forms a.reverse r
  rw [List.count_append, List.count_append]
  exact Nat.add_le_add h h'

theorem count_lowerWithin_lt
    (forms : ∀ p q, (formAt (p ++ before) 'Σ' (q ++ after)).count letter ≤
      (formAt (p ++ before') 'Σ' (q ++ after')).count letter) {a r : List Char}
    (less : (formAt (a.reverse ++ before) 'Σ' (r ++ after)).count letter <
      (formAt (a.reverse ++ before') 'Σ' (r ++ after')).count letter) :
    (lowerWithin before (a ++ 'Σ' :: r) after).count letter <
      (lowerWithin before' (a ++ 'Σ' :: r) after').count letter := by
  have left := @count_lowerWithin_le before ('Σ' :: r ++ after) before' ('Σ' :: r ++ after') letter
    (fun p q => by simpa using forms p (q ++ 'Σ' :: r)) a
  have right := @count_lowerWithin_le ('Σ' :: (a.reverse ++ before)) after
    ('Σ' :: (a.reverse ++ before')) after' letter
    (fun p q => by simpa using forms (p ++ 'Σ' :: a.reverse) q) r
  rw [lowerWithin_append, lowerWithin_append, lowerWithin, lowerWithin]
  simp only [List.count_append]
  omega

end Count

theorem startsCased_a : startsCased ['a'] = true := by decide +kernel

theorem lowerAfter_concat_a (s : List Char) :
    lowerAfter [] (s ++ ['a']) = lowerWithin [] s ['a'] ++ ['a'] := by
  have form : lowerChar 'a' = ['a'] := by decide +kernel
  rw [lowerAfter_eq_lowerWithin, lowerWithin_append, List.append_nil, lowerWithin, lowerWithin,
    formAt_of_ne (by decide), form]
  rfl

theorem lowerAfter_cons_a (s : List Char) :
    lowerAfter [] ('a' :: s) = 'a' :: lowerWithin ['a'] s [] := by
  have form : lowerChar 'a' = ['a'] := by decide +kernel
  rw [lowerAfter_eq_lowerWithin, lowerWithin, formAt_of_ne (by decide), form]
  rfl

/-- A cased letter behind a part with an open end takes a final sigma from it. -/
theorem not_infix_of_endsOpen (opened : EndsOpen s) :
    ¬ lowerAfter [] s <:+: lowerAfter [] (s ++ ['a']) := by
  obtain ⟨a, r, rfl, cased, skipped⟩ := opened
  intro inside
  have cased_a := startsCased_a
  have fewer : (lowerWithin [] (a ++ 'Σ' :: r) ['a']).count 'ς' <
      (lowerWithin [] (a ++ 'Σ' :: r) []).count 'ς' := by
    refine count_lowerWithin_lt (fun p q => ?_) ?_
    · -- the letter can only put a cased letter after a sigma, never take one away
      rw [formAt, formAt, startsCased_append q]
      grind
    · have none := startsCased_of_all skipped
      rw [formAt, formAt, startsCased_append r, if_pos skipped]
      simp [cased, cased_a, none]
  have more := inside.sublist.count_le 'ς'
  rw [lowerAfter_concat_a, lowerAfter_eq_lowerWithin, List.count_append,
    show ['a'].count 'ς' = 0 by decide] at more
  omega

/-- A cased letter before a part with an open beginning makes one of its sigmas final. -/
theorem not_infix_of_beginsOpen (opened : BeginsOpen s) :
    ¬ lowerAfter [] s <:+: lowerAfter [] ('a' :: s) := by
  obtain ⟨a, r, rfl, skipped, lower⟩ := opened
  intro inside
  have cased_a := startsCased_a
  have fewer : (lowerWithin ['a'] (a ++ 'Σ' :: r) []).count 'σ' <
      (lowerWithin [] (a ++ 'Σ' :: r) []).count 'σ' := by
    refine count_lowerWithin_lt (fun p q => ?_) ?_
    · -- the letter can only put a cased letter before a sigma, never take one away
      rw [formAt, formAt, startsCased_append p]
      grind
    · rw [← List.all_reverse] at skipped
      have none := startsCased_of_all skipped
      rw [formAt, formAt, startsCased_append a.reverse, if_pos skipped]
      simp [lower, cased_a, none]
  have more := inside.sublist.count_le 'σ'
  rw [lowerAfter_cons_a, lowerAfter_eq_lowerWithin, List.count_cons_of_ne (by decide)] at more
  omega

end RecordStore.Text
