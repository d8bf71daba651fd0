import Mathlib.Data.List.Dedup
import Mathlib.Tactic.ByContra
import RecordStore.Proofs.Ordering
import RecordStore.Proofs.Registry
import RecordStore.Proofs.Text.Blank

/-!
# Registering over and over

Whoever registers constructors one after the other, and goes on after a refusal, is refused just
where a pair of trimmed names is given again. A refusal changes nothing, so that in the end each
pair has the constructor that was given with it first, however the names are padded with white
space. The pairs are listed in ascending order.

* `Registry.attempt`, `Registry.afterCalls` — the registry after one call and after all;
* `Registry.find?_afterCalls` — which constructor a pair has;
* `Registry.Ascending`, `Registry.ascending_afterCalls` — the order of the pairs;
* `Registry.first_call_wins` — all together.
-/

namespace RecordStore

open Std

/-! ### The order of pairs -/

instance : TransCmp Registration.compare :=
  have := transCmp_comap Text.compare Registration.provider
  have := transCmp_comap Text.compare Registration.entity
  inferInstanceAs (TransCmp (compareLex
    (fun a b : Registration => Text.compare a.provider b.provider)
    fun a b : Registration => Text.compare a.entity b.entity))

instance : LawfulEqCmp Registration.compare where
  eq_of_compare := by
    rintro ⟨provider, entity⟩ ⟨provider', entity'⟩ same
    obtain ⟨first, second⟩ := Ordering.then_eq_eq.1 same
    obtain rfl : provider = provider' := Text.compare_eq_iff.1 first
    obtain rfl : entity = entity' := Text.compare_eq_iff.1 second
    rfl

/-- Names with white space around them make the same pair. -/
theorem Registration.of_padded {provider provider' entity entity' : String}
    (first : Text.Padded (Text.trim provider) provider')
    (second : Text.Padded (Text.trim entity) entity') :
    Registration.of provider' entity' = .of provider entity := by
  rw [Registration.of, Registration.of, Text.trim_of_padded first, Text.trim_of_padded second,
    Text.trim_trim, Text.trim_trim]

namespace Registry

variable {registration other : Registration} {constructor : Constructor}
  {entries : List (Registration × Constructor)} {registry : Registry}

/-! ### Pairs in their places -/

theorem insert_perm (registration : Registration) (constructor : Constructor)
    (entries : List (Registration × Constructor)) :
    (insert registration constructor entries).Perm ((registration, constructor) :: entries) := by
  induction entries with
  | nil => exact .refl _
  | cons entry rest ih =>
    rw [insert]
    split
    · exact .refl _
    · exact (ih.cons entry).trans (.swap _ entry rest)

theorem find?_eq_none_iff :
    find? registration entries = none ↔ registration ∉ entries.map Prod.fst := by
  induction entries with
  | nil => simp [find?]
  | cons entry rest ih =>
    obtain ⟨taken, old⟩ := entry
    rw [find?, List.map_cons, List.mem_cons, not_or, ← ih]
    by_cases same : taken = registration
    · simp [same]
    · simp [same, Ne.symm same]

/-- The pairs of a registry ascend strictly. -/
def Ascending (registry : Registry) : Prop :=
  registry.registrations.Pairwise fun a b => a.compare b = .lt

theorem Ascending.nodup (ascending : registry.Ascending) : registry.registrations.Nodup := by
  refine ascending.imp ?_
  rintro a _ below rfl
  have alike : a.compare a = .eq := ReflCmp.compare_self
  rw [alike] at below
  cases below

/-- A new pair is put between the smaller and the larger ones. -/
theorem ascending_insert (new : registration ∉ entries.map Prod.fst)
    (ascending : Ascending ⟨entries⟩) :
    Ascending ⟨insert registration constructor entries⟩ := by
  induction entries with
  | nil => exact List.pairwise_singleton _ _
  | cons entry rest ih =>
    obtain ⟨taken, old⟩ := entry
    rw [List.map_cons, List.mem_cons, not_or] at new
    obtain ⟨below, later⟩ := List.pairwise_cons.1 ascending
    rw [insert]
    cases order : registration.compare taken with
    | eq => exact absurd (LawfulEqCmp.eq_of_compare order) new.1
    | lt =>
      rw [if_pos rfl]
      refine List.pairwise_cons.2 ⟨List.forall_mem_cons.2 ⟨order, fun b mem => ?_⟩, ascending⟩
      exact TransCmp.lt_trans order (below b mem)
    | gt =>
      rw [if_neg (by decide)]
      refine List.pairwise_cons.2 ⟨fun b mem => ?_, ih new.2 later⟩
      have known := ((insert_perm registration constructor rest).map Prod.fst).mem_iff.1 mem
      rcases List.mem_cons.1 known with rfl | old
      · exact OrientedCmp.gt_iff_lt.1 order
      · exact below b old

/-! ### One call -/

/-- The registry after a call of `register`, which leaves it as it is when it is refused. -/
def attempt (registry : Registry) (call : Registrant) : Registry :=
  match registry.register call.provider call.entity call.constructor with
  | .ok after => after
  | .error _ => registry

/-- All that a call can do to the registry. -/
theorem attempt_cases (registry : Registry) (call : Registrant) :
    (call.registration ∈ registry.registrations ∧
      registry.register call.provider call.entity call.constructor = .error call.refusal ∧
      registry.attempt call = registry) ∨
    (call.registration ∉ registry.registrations ∧
      registry.register call.provider call.entity call.constructor = .ok (registry.attempt call) ∧
      registry.attempt call = ⟨insert call.registration call.constructor registry.entries⟩) := by
  have free : registry.contains call.provider call.entity = false ↔
      call.registration ∉ registry.registrations := by
    rw [contains_eq_false_iff, constructor?, find?_eq_none_iff, registrations,
      Registrant.registration]
  rw [attempt, ← free]
  rcases registry.register_cases call with ⟨taken, refused⟩ | ⟨new, done⟩
  · have known : call.registration ∈ registry.registrations := by
      by_contra absent
      rw [free.2 absent] at taken
      cases taken
    exact .inl ⟨known, refused, by rw [refused]⟩
  · exact .inr ⟨new, by rw [done], by rw [done]⟩

theorem find?_attempt (registry : Registry) (call : Registrant) (pair : Registration) :
    find? pair (registry.attempt call).entries = (find? pair registry.entries).or
      (if call.registration = pair then some call.constructor else none) := by
  rcases attempt_cases registry call with ⟨taken, -, same⟩ | ⟨free, -, put⟩
  · rw [same]
    by_cases own : call.registration = pair
    · cases held : find? pair registry.entries with
      | some constructor => rfl
      | none => exact absurd (own ▸ taken) (find?_eq_none_iff.1 held)
    · rw [if_neg own, Option.or_none]
  · have none := find?_eq_none_iff.2 free
    rw [put, find?_insert none]
    by_cases own : call.registration = pair
    · rw [if_pos own, if_pos own, ← own, none]
      rfl
    · rw [if_neg own, if_neg own, Option.or_none]

theorem ascending_attempt (ascending : registry.Ascending) (call : Registrant) :
    (registry.attempt call).Ascending := by
  rcases attempt_cases registry call with ⟨-, -, same⟩ | ⟨free, -, put⟩
  · rwa [same]
  · rw [put]
    exact ascending_insert free ascending

/-! ### All calls -/

/-- The registry after calls on an empty one. -/
def afterCalls (calls : List Registrant) : Registry := calls.foldl attempt empty

/-- Each pair has the constructor of the first call that gives it. -/
theorem find?_afterCalls (calls : List Registrant) (pair : Registration) :
    find? pair (afterCalls calls).entries =
      (calls.find? fun call => call.registration = pair).map Registrant.constructor := by
  have folded (registry : Registry) : find? pair (calls.foldl attempt registry).entries =
      (find? pair registry.entries).or
        ((calls.find? fun call => call.registration = pair).map Registrant.constructor) := by
    induction calls generalizing registry with
    | nil => exact (Option.or_none).symm
    | cons call rest ih =>
      rw [List.foldl_cons, ih, find?_attempt, List.find?_cons, Option.or_assoc]
      by_cases own : call.registration = pair <;> simp [own]
  exact folded empty

theorem ascending_afterCalls (calls : List Registrant) : (afterCalls calls).Ascending := by
  have folded {registry : Registry} (ascending : registry.Ascending) :
      (calls.foldl attempt registry).Ascending := by
    induction calls generalizing registry with
    | nil => exact ascending
    | cons call rest ih => exact ih (ascending_attempt ascending call)
  exact folded .nil

/-- The pairs that are registered are those that the calls give. -/
theorem mem_registrations_afterCalls {calls : List Registrant} {pair : Registration} :
    pair ∈ (afterCalls calls).registrations ↔ pair ∈ calls.map Registrant.registration := by
  rw [registrations, ← not_iff_not, ← find?_eq_none_iff, find?_afterCalls, Option.map_eq_none_iff,
    List.find?_eq_none]
  simp

/-- **Registering over and over.** On a registry that was empty at first, a call succeeds just if no
earlier one gave the same pair of trimmed names, and a refused call changes nothing. Afterwards
each pair that some call gave is registered under its names with any white space around them, with
the constructor of the first call that gave it, and any other pair is not registered. The pairs are
listed once each in ascending order, and counted. -/
theorem first_call_wins (calls : List Registrant) :
    (∀ call : Registrant,
      (call.registration ∉ calls.map Registrant.registration ∧
        (afterCalls calls).register call.provider call.entity call.constructor =
          .ok (afterCalls (calls ++ [call]))) ∨
      (call.registration ∈ calls.map Registrant.registration ∧
        (afterCalls calls).register call.provider call.entity call.constructor =
          .error call.refusal ∧
        afterCalls (calls ++ [call]) = afterCalls calls)) ∧
    (∀ call ∈ calls, ∃ first,
      calls.find? (fun other => other.registration = call.registration) = some first ∧
      ∀ provider entity, Text.Padded (Text.trim call.provider) provider →
        Text.Padded (Text.trim call.entity) entity →
        (afterCalls calls).contains provider entity = true ∧
        ∀ table, (afterCalls calls).resolve provider entity table = first.constructor table) ∧
    (∀ provider entity, Registration.of provider entity ∉ calls.map Registrant.registration →
      (afterCalls calls).contains provider entity = false ∧
      ∀ table, (afterCalls calls).resolve provider entity table =
        .error (.providerNotRegistered (Text.trim provider) (Text.trim entity))) ∧
    (afterCalls calls).registrations.Pairwise (fun a b => a.compare b = .lt) ∧
    (afterCalls calls).registrations.Perm (calls.map Registrant.registration).dedup ∧
    (afterCalls calls).registrations.length = (afterCalls calls).size := by
  refine ⟨fun call => ?_, fun call mem => ?_, fun provider entity absent => ?_,
    ascending_afterCalls calls, ?_, List.length_map _⟩
  · have next : afterCalls (calls ++ [call]) = (afterCalls calls).attempt call := by
      rw [afterCalls, List.foldl_append]
      rfl
    rw [next, ← mem_registrations_afterCalls]
    rcases attempt_cases (afterCalls calls) call with ⟨taken, refused, same⟩ | ⟨free, done, -⟩
    · exact .inr ⟨taken, refused, same⟩
    · exact .inl ⟨free, done⟩
  · have given : (calls.find? fun other => other.registration = call.registration).isSome :=
      List.find?_isSome.2 ⟨call, mem, decide_eq_true rfl⟩
    obtain ⟨first, found⟩ := Option.isSome_iff_exists.1 given
    refine ⟨first, found, fun provider entity padded padded' => ?_⟩
    have held : (afterCalls calls).constructor? provider entity = some first.constructor := by
      rw [constructor?, Registration.of_padded padded padded', find?_afterCalls]
      exact congrArg (Option.map Registrant.constructor) found
    exact ⟨by rw [contains, held]; rfl, fun table => by rw [resolve, held]⟩
  · have none : (afterCalls calls).constructor? provider entity = none := by
      rwa [constructor?, find?_eq_none_iff, ← registrations, mem_registrations_afterCalls]
    exact ⟨by rw [contains, none]; rfl, fun table => by rw [resolve, none]; rfl⟩
  · refine (List.perm_ext_iff_of_nodup (ascending_afterCalls calls).nodup
      (List.nodup_dedup _)).2 fun pair => ?_
    rw [List.mem_dedup, mem_registrations_afterCalls]

/-- Three calls, the last one for the pair of the first one with white space around its names. -/
def wiring : List Registrant :=
  [⟨"mock", "widget", .memory⟩, ⟨"memory", "gadget", .refusing⟩, ⟨" mock", "widget\t", .refusing⟩]

theorem wiring_keeps_first :
    (afterCalls wiring).contains "mock " " widget" = true ∧
    (afterCalls wiring).resolve "mock " " widget" "widgets" = .ok ⟨memoryBackend, "widgets"⟩ ∧
    (afterCalls wiring).resolve "mock" "gadget" "gadgets" =
      .error (.providerNotRegistered "mock" "gadget") ∧
    (afterCalls wiring).registrations = [⟨"memory", "gadget"⟩, ⟨"mock", "widget"⟩] := by
  obtain ⟨-, known, unknown, -⟩ := first_call_wins wiring
  obtain ⟨first, found, names⟩ := known ⟨" mock", "widget\t", .refusing⟩ (by simp [wiring])
  obtain rfl : ⟨"mock", "widget", .memory⟩ = first := Option.some.inj found
  obtain ⟨contained, resolved⟩ := names "mock " " widget" ⟨"", " ", rfl, rfl, rfl⟩
    ⟨" ", "", rfl, rfl, rfl⟩
  obtain ⟨-, refused⟩ := unknown "mock" "gadget" (by decide)
  exact ⟨contained, resolved "widgets", refused "gadgets", by decide⟩

end Registry

end RecordStore
