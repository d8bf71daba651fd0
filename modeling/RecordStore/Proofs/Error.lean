import Mathlib.Data.List.Forall2
import RecordStore.Error

/-!
# Answers that may be errors

A chain of answers is an error as soon as one of its links is. So it succeeds just if all of them
do, and its errors are of the kinds of theirs.

* `bind_eq_ok_iff`, `mapM_eq_ok_iff` — when a chain succeeds;
* `FailsOnlyWith` — answers with no other errors than those of a kind;
* `StoreError.IsInvalidFilter`, `StoreError.IsInvalidQuery` — the kinds that list parameters have.
-/

namespace RecordStore

section Answers

variable {ε α β : Type} {answer : Except ε α} {next : α → Except ε β}

theorem bind_eq_ok_iff {b : β} :
    (answer >>= next) = .ok b ↔ ∃ a, answer = .ok a ∧ next a = .ok b := by
  cases answer with
  | error e => exact ⟨nofun, nofun⟩
  | ok a =>
    refine ⟨fun h => ⟨a, rfl, h⟩, ?_⟩
    rintro ⟨_, ⟨⟩, h⟩
    exact h

/-- A link that is a mere check. -/
theorem check_bind_eq_ok_iff {check : Except ε Unit} {next : Unit → Except ε β} {b : β} :
    (check >>= next) = .ok b ↔ check = .ok () ∧ next () = .ok b :=
  bind_eq_ok_iff.trans ⟨fun ⟨_, h⟩ => h, fun h => ⟨(), h⟩⟩

theorem mapM_eq_ok_iff {as : List α} {bs : List β} :
    as.mapM next = .ok bs ↔ List.Forall₂ (fun a b => next a = .ok b) as bs := by
  induction as generalizing bs with
  | nil =>
    rw [List.forall₂_nil_left_iff]
    constructor
    · rintro ⟨⟩
      rfl
    · rintro rfl
      rfl
  | cons a rest ih =>
    rw [List.mapM_cons, bind_eq_ok_iff]
    constructor
    · rintro ⟨b, first, h⟩
      obtain ⟨later, others, same⟩ := bind_eq_ok_iff.1 h
      cases same
      exact .cons first (ih.1 others)
    · rintro (_ | ⟨first, others⟩)
      exact ⟨_, first, bind_eq_ok_iff.2 ⟨_, ih.2 others, rfl⟩⟩

/-- Each value of a chain belongs to one of its links. -/
theorem exists_mem_of_forall₂ {R : α → β → Prop} {as : List α} {bs : List β}
    (h : List.Forall₂ R as bs) : ∀ b ∈ bs, ∃ a ∈ as, R a b := by
  induction h with
  | nil => exact nofun
  | cons first _ ih =>
    refine List.forall_mem_cons.2 ⟨⟨_, List.mem_cons_self, first⟩, fun b mem => ?_⟩
    obtain ⟨a, inside, related⟩ := ih b mem
    exact ⟨a, List.mem_cons_of_mem _ inside, related⟩

/-- Each link of a chain may have a value of its own. -/
theorem exists_forall₂_iff {R : α → β → Prop} {as : List α} :
    (∃ bs, List.Forall₂ R as bs) ↔ ∀ a ∈ as, ∃ b, R a b := by
  induction as with
  | nil => exact iff_of_true ⟨[], .nil⟩ nofun
  | cons a rest ih =>
    rw [List.forall_mem_cons, ← ih]
    constructor
    · rintro ⟨_, _ | ⟨first, others⟩⟩
      exact ⟨⟨_, first⟩, _, others⟩
    · rintro ⟨⟨b, first⟩, bs, others⟩
      exact ⟨b :: bs, .cons first others⟩

/-- Whether an answer has no other errors than those with a property. -/
def FailsOnlyWith (fault : ε → Prop) (answer : Except ε α) : Prop :=
  ∀ e, answer = .error e → fault e

variable {fault : ε → Prop}

theorem FailsOnlyWith.of_ok (a : α) : FailsOnlyWith fault (.ok a) := nofun

theorem FailsOnlyWith.of_error {e : ε} (h : fault e) :
    FailsOnlyWith fault (.error e : Except ε α) := by
  rintro _ ⟨⟩
  exact h

theorem FailsOnlyWith.bind (first : FailsOnlyWith fault answer)
    (later : ∀ a, FailsOnlyWith fault (next a)) : FailsOnlyWith fault (answer >>= next) := by
  cases answer with
  | error e => exact .of_error (first e rfl)
  | ok a => exact later a

theorem FailsOnlyWith.mapM (each : ∀ a, FailsOnlyWith fault (next a)) (as : List α) :
    FailsOnlyWith fault (as.mapM next) := by
  induction as with
  | nil => exact .of_ok _
  | cons a rest ih =>
    rw [List.mapM_cons]
    exact (each a).bind fun _ => ih.bind fun _ => .of_ok _

theorem FailsOnlyWith.mono {wider : ε → Prop} (h : FailsOnlyWith fault answer)
    (weaker : ∀ e, fault e → wider e) : FailsOnlyWith wider answer :=
  fun e same => weaker e (h e same)

end Answers

/-- Whether an error is that of an invalid filter. -/
def StoreError.IsInvalidFilter (e : StoreError) : Prop :=
  ∃ field message, e = .invalidFilter field message

/-- Whether an error is that of other invalid parameters of a list. -/
def StoreError.IsInvalidQuery (e : StoreError) : Prop := ∃ message, e = .invalidQuery message

theorem FilterFault.isInvalidFilter_on (fault : FilterFault) (field : String) :
    (fault.on field).IsInvalidFilter := ⟨_, _, rfl⟩

theorem QueryFault.isInvalidQuery_error (fault : QueryFault) : fault.error.IsInvalidQuery :=
  ⟨_, rfl⟩

end RecordStore
