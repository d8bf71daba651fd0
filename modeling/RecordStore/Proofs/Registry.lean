import Mathlib.Data.List.Nodup
import RecordStore.Registry

/-!
# What is registered

A registration succeeds unless its pair of trimmed names is taken, and then gives that pair its
constructor and leaves all other pairs alone. So one registration after the other succeeds just if
no two of them are for the same pair, and every pair has the constructor that was registered for it.

* `Registry.register_cases` — one registration;
* `Registry.registerAll_cases`, `Registry.constructor?_registerAll` — one after the other;
* `Registry.registerMemory_eq` — tables in the store.
-/

namespace RecordStore

/-- A constructor that is to be registered, with the names of a backend and of an entity. -/
structure Registrant where
  provider : String
  entity : String
  constructor : Constructor

namespace Registrant

/-- The pair of trimmed names. -/
def registration (registrant : Registrant) : Registration :=
  .of registrant.provider registrant.entity

/-- The refusal of a registrant whose pair of names is taken. -/
def refusal (registrant : Registrant) : StoreError :=
  .alreadyRegistered registrant.registration.provider registrant.registration.entity

/-- The registrant for a table in the store. -/
def memory (entity : String) : Registrant := ⟨memoryBackend, entity, .memory⟩

theorem registration_memory (entity : String) :
    (memory entity).registration = ⟨memoryBackend, Text.trim entity⟩ := by
  have plain : Text.trim memoryBackend = memoryBackend := by decide
  rw [registration, memory, Registration.of, plain]

end Registrant

namespace Registry

variable {registry after : Registry}

/-- A constructor that is put into its place is found under its own pair of names only. -/
theorem find?_insert {registration : Registration} {entries : List (Registration × Constructor)}
    (free : find? registration entries = none) (constructor : Constructor)
    (other : Registration) :
    find? other (insert registration constructor entries) =
      if registration = other then some constructor else find? other entries := by
  induction entries with
  | nil => rfl
  | cons entry rest ih =>
    obtain ⟨taken, old⟩ := entry
    rw [find?] at free
    split at free
    · cases free
    · next apart =>
      rw [insert]
      split
      · rfl
      · rw [find?, find?, ih free]
        by_cases same : taken = other
        · rw [if_pos same, if_pos same, if_neg fun h => apart (same.trans h.symm)]
        · rw [if_neg same, if_neg same]

theorem contains_eq_false_iff {provider entity : String} :
    registry.contains provider entity = false ↔ registry.constructor? provider entity = none := by
  rw [contains, Option.isSome_eq_false_iff, Option.isNone_iff_eq_none]

/-- All that a registration can do: it is refused if its pair of names is taken, and else the
constructor is put into its place. -/
theorem register_cases (registry : Registry) (registrant : Registrant) :
    (registry.contains registrant.provider registrant.entity = true ∧
      registry.register registrant.provider registrant.entity registrant.constructor =
        .error registrant.refusal) ∨
    (registry.contains registrant.provider registrant.entity = false ∧
      registry.register registrant.provider registrant.entity registrant.constructor =
        .ok ⟨insert registrant.registration registrant.constructor registry.entries⟩) := by
  rw [register]
  cases taken : registry.contains registrant.provider registrant.entity with
  | true => exact .inl ⟨rfl, rfl⟩
  | false => exact .inr ⟨rfl, rfl⟩

/-- The pair of names gets the constructor, all others keep theirs. -/
theorem constructor?_insert {registrant : Registrant}
    (free : registry.contains registrant.provider registrant.entity = false)
    (provider entity : String) :
    constructor? ⟨insert registrant.registration registrant.constructor registry.entries⟩
        provider entity =
      if registrant.registration = .of provider entity then some registrant.constructor
      else registry.constructor? provider entity :=
  find?_insert (contains_eq_false_iff.1 free) _ _

/-- Register one after the other, up to the first refusal. -/
def registerAll (registry : Registry) : List Registrant → Except StoreError Registry
  | [] => .ok registry
  | registrant :: rest =>
    match registry.register registrant.provider registrant.entity registrant.constructor with
    | .error e => .error e
    | .ok registry => registry.registerAll rest

/-- Whether pairs of names are free, each of them for one registrant. -/
def Admits (registry : Registry) (registrants : List Registrant) : Prop :=
  (∀ registrant ∈ registrants,
    registry.contains registrant.provider registrant.entity = false) ∧
  (registrants.map Registrant.registration).Nodup

theorem admits_cons_iff {registrant : Registrant} {rest : List Registrant}
    (free : registry.contains registrant.provider registrant.entity = false)
    (looks : ∀ provider entity, after.constructor? provider entity =
      if registrant.registration = .of provider entity then some registrant.constructor
      else registry.constructor? provider entity) :
    registry.Admits (registrant :: rest) ↔ after.Admits rest := by
  have contains (other : Registrant) : after.contains other.provider other.entity = false ↔
      registrant.registration ≠ other.registration ∧
        registry.contains other.provider other.entity = false := by
    rw [contains_eq_false_iff, contains_eq_false_iff, looks, ← Registrant.registration]
    by_cases same : registrant.registration = other.registration <;> simp [same]
  unfold Admits
  simp only [contains, List.forall_mem_cons, free, true_and, List.map_cons, List.nodup_cons,
    List.mem_map, not_exists, not_and]
  constructor
  · rintro ⟨others, new, distinct⟩
    exact ⟨fun other mem => ⟨Ne.symm (new other mem), others other mem⟩, distinct⟩
  · rintro ⟨others, distinct⟩
    exact ⟨fun other mem => (others other mem).2, fun other mem => Ne.symm (others other mem).1,
      distinct⟩

/-- Registrants are registered one after the other just if their pairs of names are free, and if
not, one of them is refused. -/
theorem registerAll_cases (registry : Registry) (registrants : List Registrant) :
    (registry.Admits registrants ∧ ∃ after, registry.registerAll registrants = .ok after) ∨
    (¬ registry.Admits registrants ∧ ∃ registrant ∈ registrants,
      registry.registerAll registrants = .error registrant.refusal) := by
  induction registrants generalizing registry with
  | nil => exact .inl ⟨⟨fun _ none => absurd none List.not_mem_nil, List.nodup_nil⟩, registry, rfl⟩
  | cons registrant rest ih =>
    rw [registerAll]
    rcases registry.register_cases registrant with ⟨taken, refused⟩ | ⟨free, done⟩
    · rw [refused]
      refine .inr ⟨fun admits => ?_, registrant, List.mem_cons_self, rfl⟩
      exact absurd (taken.symm.trans (admits.1 _ List.mem_cons_self)) (by decide)
    · rw [done, admits_cons_iff free (constructor?_insert free)]
      rcases ih _ with later | ⟨not, refused, mem, error⟩
      · exact .inl later
      · exact .inr ⟨not, refused, List.mem_cons_of_mem _ mem, error⟩

/-- Every pair of names has the constructor that was registered for it. -/
theorem constructor?_registerAll {registrants : List Registrant}
    (h : registry.registerAll registrants = .ok after) (provider entity : String) :
    after.constructor? provider entity = (registry.constructor? provider entity).or
      ((registrants.find? fun r => r.registration = .of provider entity).map
        Registrant.constructor) := by
  induction registrants generalizing registry with
  | nil =>
    cases h
    simp
  | cons registrant rest ih =>
    rw [registerAll] at h
    rcases registry.register_cases registrant with ⟨-, refused⟩ | ⟨free, done⟩
    · rw [refused] at h
      cases h
    · rw [done] at h
      rw [ih h, constructor?_insert free, List.find?_cons]
      by_cases same : registrant.registration = .of provider entity
      · have none : registry.constructor? provider entity = none := by
          rw [contains_eq_false_iff, constructor?] at free
          rwa [constructor?, ← same]
        simp [same, none]
      · simp [same]

/-- Tables in the store are registered like anything else. -/
theorem registerMemory_eq (registry : Registry) (entities : List String) :
    (∀ {after}, registry.registerAll (entities.map .memory) = .ok after →
      registry.registerMemory entities = (none, after)) ∧
    ∀ {e}, registry.registerAll (entities.map .memory) = .error e →
      (registry.registerMemory entities).1 = some e := by
  induction entities generalizing registry with
  | nil => exact ⟨fun h => by cases h; rfl, (nomatch ·)⟩
  | cons entity rest ih =>
    have first : registry.register (Registrant.memory entity).provider
        (Registrant.memory entity).entity (Registrant.memory entity).constructor =
      registry.register memoryBackend entity .memory := rfl
    rw [List.map_cons, registerAll, registerMemory, first]
    cases registry.register memoryBackend entity .memory with
    | error e => exact ⟨(nomatch ·), fun h => by cases h; rfl⟩
    | ok between => exact ih between

end Registry

end RecordStore
