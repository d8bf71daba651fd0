import RecordStore.Proofs.Filter
import RecordStore.Proofs.Text.Fold
import RecordStore.Proofs.Text.Sigma

/-!
# Filters that ignore case

A filter that ignores case compares the lowercase forms of the whole text and the whole operand. A
capital sigma has a form of its own at the end of a word, so that the form of an operand need not
occur in the form of a text in which the operand occurs.

* `TextOperator.KeepsMatches` — whether a filter that ignores case matches what it matches else;
* `TextOperator.keepsMatches_iff_closed` — the operands with which it does;
* `TextOperator.final_sigma_is_lost` — a word that is not found in a longer one.
-/

namespace RecordStore.TextOperator

open Text

variable {operator : TextOperator} {operand : String}

/-- Whether each value that a filter of an operand matches is still matched if case is ignored. -/
def KeepsMatches (operator : TextOperator) (operand : String) : Prop :=
  ∀ field value, Filter.matchesValue ⟨field, .text operator operand false⟩ value = true →
    Filter.matchesValue ⟨field, .text operator operand true⟩ value = true

/-- Only the texts of values matter. -/
theorem keepsMatches_iff : operator.KeepsMatches operand ↔
    ∀ s, operator.holds s operand = true →
      operator.holds (lowercase s) (lowercase operand) = true := by
  constructor
  · intro kept s found
    have related := kept "" (.text s) (Condition.holds_text_iff.2 ⟨s, rfl, found⟩)
    obtain ⟨_, ⟨⟩, lower⟩ := Condition.holds_text_iff.1 related
    exact lower
  · intro kept field value found
    obtain ⟨s, textual, related⟩ := Condition.holds_text_iff.1 found
    exact Condition.holds_text_iff.2 ⟨s, textual, kept s related⟩

/-- **Matches of filters that ignore case.** Equality keeps its matches if case is ignored. The
relations to a part of a text keep them just if no neighbour of the operand decides on the form of
one of its capital sigmas: for a beginning none behind it, for an end none before it, and for any
other part neither. -/
theorem keepsMatches_iff_closed (operand : String) :
    KeepsMatches .equals operand ∧
      (KeepsMatches .startsWith operand ↔ ¬ EndsOpen operand.toList) ∧
      (KeepsMatches .endsWith operand ↔ ¬ BeginsOpen operand.toList) ∧
      (KeepsMatches .contains operand ↔
        ¬ EndsOpen operand.toList ∧ ¬ BeginsOpen operand.toList) := by
  have form (s : String) : (lowercase s).toList = lowerAfter [] s.toList := String.toList_ofList
  simp only [keepsMatches_iff, holds, form, occursIn_iff_isInfix, List.isPrefixOf_iff_prefix,
    List.isSuffixOf_iff_suffix, beq_iff_eq]
  have behind : operand.toList <+: (operand ++ "a").toList := by
    rw [String.toList_append]
    exact List.prefix_append _ _
  have front : operand.toList <:+ ("a" ++ operand).toList := by
    rw [String.toList_append]
    exact List.suffix_append _ _
  have lostBehind (opened : EndsOpen operand.toList) :
      ¬ lowerAfter [] operand.toList <:+: lowerAfter [] (operand ++ "a").toList := by
    rw [String.toList_append]
    exact not_infix_of_endsOpen opened
  have lostFront (opened : BeginsOpen operand.toList) :
      ¬ lowerAfter [] operand.toList <:+: lowerAfter [] ("a" ++ operand).toList := by
    rw [String.toList_append]
    exact not_infix_of_beginsOpen opened
  refine ⟨fun s same => by rw [same], ⟨fun kept opened => ?_, fun closed s => ?_⟩,
    ⟨fun kept opened => ?_, fun closed s => ?_⟩,
    ⟨fun kept => ⟨fun opened => ?_, fun opened => ?_⟩, fun closed s => ?_⟩⟩
  · exact lostBehind opened (kept _ behind).isInfix
  · exact prefix_lowerAfter closed
  · exact lostFront opened (kept _ front).isInfix
  · exact suffix_lowerAfter closed
  · exact lostBehind opened (kept _ behind.isInfix)
  · exact lostFront opened (kept _ front.isInfix)
  · exact infix_lowerAfter closed.1 closed.2

/-- A beginning that ends with a capital sigma is not found if case is ignored, neither as a
beginning nor as a part, and a capital sigma is not found as the end of a word. -/
theorem final_sigma_is_lost :
    Filter.matchesValue ⟨"name", .text .contains "ΑΣ" false⟩ (.text "ΑΣΑ") = true ∧
      Filter.matchesValue ⟨"name", .text .contains "ΑΣ" true⟩ (.text "ΑΣΑ") = false ∧
      Filter.matchesValue ⟨"name", .text .startsWith "ΑΣ" false⟩ (.text "ΑΣΑ") = true ∧
      Filter.matchesValue ⟨"name", .text .startsWith "ΑΣ" true⟩ (.text "ΑΣΑ") = false ∧
      Filter.matchesValue ⟨"name", .text .endsWith "Σ" false⟩ (.text "ΑΣ") = true ∧
      Filter.matchesValue ⟨"name", .text .endsWith "Σ" true⟩ (.text "ΑΣ") = false := by
  decide +kernel

end RecordStore.TextOperator
