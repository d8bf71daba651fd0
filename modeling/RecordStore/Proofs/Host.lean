import RecordStore.Host
import RecordStore.Proofs.Payload
import RecordStore.Proofs.Registry

/-!
# Composition

A valid configuration is composed to a host that has, for every entity, the provider of the
constructor that was registered for it, or else one of the entity's table in the store. What can
prevent this is only that the check of the configuration tells names apart that the registry takes
for one: those that are equal when they are trimmed.

* `Configuration.names_nodup_of_validate` — what the check of the entities says;
* `Host.resolveAll_eq_ok_iff` — the providers of the entities;
* `Host.entityNames_ascending` — the names of the entities, in order;
* `Host.build_cases` — which valid configurations are composed, and to what;
* `Host.padded_name_is_refused` — one that is not.
-/

namespace RecordStore

/-! ### Valid configurations -/

namespace Configuration

theorem names_nodup_of_validateEntities {seen : List String} {entities : List EntitySettings}
    (valid : validateEntities seen entities = .ok ()) :
    (entities.map EntitySettings.name).Nodup ∧
      ∀ entity ∈ entities, entity.name ∉ seen := by
  induction entities generalizing seen with
  | nil => exact ⟨List.nodup_nil, fun _ none => absurd none List.not_mem_nil⟩
  | cons entity rest ih =>
    rw [validateEntities] at valid
    split at valid
    · cases valid
    · split at valid
      · cases valid
      · next new =>
        obtain ⟨distinct, others⟩ := ih valid
        have apart : entity.name ∉ rest.map EntitySettings.name := by
          intro mem
          obtain ⟨other, known, same⟩ := List.mem_map.1 mem
          exact others other known (same ▸ List.mem_cons_self)
        refine ⟨List.nodup_cons.2 ⟨apart, distinct⟩, List.forall_mem_cons.2 ⟨?_, ?_⟩⟩
        · simpa using new
        · exact fun other mem known => others other mem (List.mem_cons_of_mem _ known)

/-- The entities of a valid configuration have different names. -/
theorem names_nodup_of_validate {configuration : Configuration}
    (valid : configuration.validate = .ok ()) :
    (configuration.entities.map EntitySettings.name).Nodup := by
  have checked : validateEntities [] configuration.entities = .ok () := by
    cases entities : validateEntities [] configuration.entities with
    | ok => rfl
    | error e =>
      rw [validate, entities] at valid
      by_cases positive : configuration.defaultPageSize.toInt < 1
      · rw [if_pos positive] at valid
        cases valid
      · rw [if_neg positive] at valid
        cases valid
  exact (names_nodup_of_validateEntities checked).1

end Configuration

namespace Host

/-! ### Providers -/

/-- The providers of the entities, each under the name of its entity. -/
theorem resolveAll_eq_ok_iff {registry : Registry} {backend : String}
    {entities : List EntitySettings} {providers : List (String × Provider)} :
    resolveAll registry backend entities = .ok providers ↔
      List.Forall₂ (fun entity named => named.1 = entity.name ∧
          registry.resolve backend entity.name entity.tableName = .ok named.2)
        entities providers := by
  induction entities generalizing providers with
  | nil =>
    constructor
    · intro h
      cases h
      exact .nil
    · rintro ⟨⟩
      rfl
  | cons entity rest ih =>
    rw [resolveAll]
    constructor
    · intro h
      cases resolved : registry.resolve backend entity.name entity.tableName with
      | error e =>
        rw [resolved] at h
        cases h
      | ok provider =>
        rw [resolved] at h
        cases others : resolveAll registry backend rest with
        | error e =>
          rw [others] at h
          cases h
        | ok later =>
          rw [others] at h
          cases h
          exact .cons ⟨rfl, resolved⟩ (ih.1 others)
    · rintro (_ | ⟨⟨named, resolved⟩, later⟩)
      rw [resolved, ih.2 later, ← named]
      rfl

theorem exists_resolveAll {registry : Registry} {backend : String}
    {entities : List EntitySettings} (makes : ∀ entity ∈ entities,
      ∃ provider, registry.resolve backend entity.name entity.tableName = .ok provider) :
    ∃ providers, resolveAll registry backend entities = .ok providers := by
  induction entities with
  | nil => exact ⟨[], rfl⟩
  | cons entity rest ih =>
    obtain ⟨first, others⟩ := List.forall_mem_cons.1 makes
    obtain ⟨provider, resolved⟩ := first
    obtain ⟨providers, later⟩ := ih others
    refine ⟨(entity.name, provider) :: providers, resolveAll_eq_ok_iff.2 (.cons ⟨rfl, ?_⟩ ?_)⟩
    · exact resolved
    · exact resolveAll_eq_ok_iff.1 later

theorem names_of_resolveAll {registry : Registry} {backend : String}
    {entities : List EntitySettings} {providers : List (String × Provider)}
    (h : resolveAll registry backend entities = .ok providers) :
    Members.names providers = entities.map EntitySettings.name := by
  have named := resolveAll_eq_ok_iff.1 h
  clear h
  induction named with
  | nil => rfl
  | cons first _ ih => rw [Members.names_cons, List.map_cons, first.1, ih]

/-- An entity is found with the provider to which it is resolved. -/
theorem get?_of_resolveAll {registry : Registry} {backend : String}
    {entities : List EntitySettings} (distinct : (entities.map EntitySettings.name).Nodup)
    {providers : List (String × Provider)}
    (h : resolveAll registry backend entities = .ok providers) {entity : EntitySettings}
    (mem : entity ∈ entities) :
    ∃ provider, Members.get? entity.name providers = some provider ∧
      registry.resolve backend entity.name entity.tableName = .ok provider := by
  rw [← names_of_resolveAll h] at distinct
  simp only [Members.get?_eq_some_iff distinct]
  have named := resolveAll_eq_ok_iff.1 h
  clear h distinct
  induction named with
  | nil => cases mem
  | @cons _ m _ _ first _ ih =>
    rcases List.mem_cons.1 mem with rfl | mem
    · exact ⟨m.2, first.1 ▸ List.mem_cons_self, first.2⟩
    · obtain ⟨provider, known, resolved⟩ := ih mem
      exact ⟨provider, List.mem_cons_of_mem _ known, resolved⟩

/-! ### Names in order -/

theorem insertName_perm (name : String) (names : List String) :
    (insertName name names).Perm (name :: names) := by
  induction names with
  | nil => exact .refl _
  | cons other rest ih =>
    rw [insertName]
    split
    · exact .refl _
    · exact (ih.cons other).trans (.swap name other rest)

theorem insertName_ascending {name : String} {names : List String} (new : name ∉ names)
    (ascending : names.Pairwise fun a b => Text.compare a b = .lt) :
    (insertName name names).Pairwise fun a b => Text.compare a b = .lt := by
  induction names with
  | nil => exact List.pairwise_singleton _ _
  | cons other rest ih =>
    rw [List.mem_cons, not_or] at new
    obtain ⟨below, later⟩ := List.pairwise_cons.1 ascending
    rw [insertName, Text.le]
    cases order : Text.compare name other with
    | eq => exact absurd (Text.compare_eq_iff.1 order) new.1
    | lt =>
      refine List.pairwise_cons.2 ⟨?_, ascending⟩
      exact List.forall_mem_cons.2 ⟨order, fun b mem => Std.TransCmp.lt_trans order (below b mem)⟩
    | gt =>
      have first : Text.compare other name = .lt := Std.OrientedCmp.lt_of_gt order
      refine List.pairwise_cons.2 ⟨fun b mem => ?_, ih new.2 later⟩
      rcases List.mem_cons.1 ((insertName_perm name rest).mem_iff.1 mem) with rfl | mem
      · exact first
      · exact below b mem

/-- The names of the entities are in strictly ascending order. -/
theorem entityNames_ascending {host : Host} (distinct : (Members.names host.providers).Nodup) :
    host.entityNames.Perm (Members.names host.providers) ∧
      host.entityNames.Pairwise fun a b => Text.compare a b = .lt := by
  rw [entityNames]
  generalize Members.names host.providers = names at distinct
  induction names with
  | nil => exact ⟨.nil, .nil⟩
  | cons name rest ih =>
    obtain ⟨new, distinct⟩ := List.nodup_cons.1 distinct
    obtain ⟨perm, ascending⟩ := ih distinct
    exact ⟨(insertName_perm _ _).trans (perm.cons name),
      insertName_ascending (mt perm.mem_iff.1 new) ascending⟩

/-! ### Composition -/

/-- The constructor that was registered beforehand for an entity in the store. -/
def custom? (registrants : List Registrant) (entity : String) : Option Constructor :=
  (registrants.find? fun r => r.registration = .of memoryBackend entity).map
    Registrant.constructor

/-- What an entity gets: the provider of the constructor that was registered for it, or else one of
its table in the store. -/
def provided (registrants : List Registrant) (entity : EntitySettings) :
    Except StoreError Provider :=
  match custom? registrants entity.name with
  | some constructor => constructor entity.tableName
  | none => .ok ⟨memoryBackend, entity.tableName⟩

/-- No two entities without a constructor of their own have names that are equal when they are
trimmed. -/
def NamesApart (registrants : List Registrant) (entities : List EntitySettings) : Prop :=
  (entities.filter fun entity => (custom? registrants entity.name).isNone).Pairwise
    fun a b => Text.trim a.name ≠ Text.trim b.name

instance (registrants : List Registrant) (entities : List EntitySettings) :
    Decidable (NamesApart registrants entities) :=
  inferInstanceAs (Decidable (List.Pairwise _ _))

variable {registrants : List Registrant} {registry : Registry}

theorem constructor?_of_registered
    (registered : Registry.empty.registerAll registrants = .ok registry) (entity : String) :
    registry.constructor? memoryBackend entity = custom? registrants entity := by
  rw [Registry.constructor?_registerAll registered]
  rfl

theorem unregistered_eq (registered : Registry.empty.registerAll registrants = .ok registry)
    (entities : List EntitySettings) :
    unregistered registry entities =
      (entities.filter fun entity => (custom? registrants entity.name).isNone).map
        EntitySettings.name := by
  simp only [unregistered, Registry.contains, constructor?_of_registered registered,
    Option.not_isSome]

/-- The tables in the store can be registered just if the names are apart. -/
theorem admits_memory_iff (registered : Registry.empty.registerAll registrants = .ok registry)
    (entities : List EntitySettings) :
    registry.Admits ((unregistered registry entities).map .memory) ↔
      NamesApart registrants entities := by
  have free : ∀ registrant ∈ (unregistered registry entities).map Registrant.memory,
      registry.contains registrant.provider registrant.entity = false := by
    intro registrant mem
    obtain ⟨name, open', rfl⟩ := List.mem_map.1 mem
    obtain ⟨entity, kept, rfl⟩ := List.mem_map.1 open'
    show registry.contains memoryBackend entity.name = false
    simpa only [Bool.not_eq_true'] using (List.mem_filter.1 kept).2
  have names : ((unregistered registry entities).map Registrant.memory).map
      Registrant.registration =
      (entities.filter fun entity => (custom? registrants entity.name).isNone).map
        fun entity => ⟨memoryBackend, Text.trim entity.name⟩ := by
    rw [unregistered_eq registered, List.map_map, List.map_map]
    exact List.map_congr_left fun entity _ => Registrant.registration_memory entity.name
  rw [Registry.Admits, and_iff_right free, names, NamesApart, List.Nodup, List.pairwise_map]
  simp

/-- After the tables in the store were registered, every entity is resolved to what it gets. -/
theorem resolve_eq_provided (registered : Registry.empty.registerAll registrants = .ok registry)
    {entities : List EntitySettings} {after : Registry}
    (filled : registry.registerAll ((unregistered registry entities).map .memory) = .ok after)
    {entity : EntitySettings} (mem : entity ∈ entities) :
    after.resolve memoryBackend entity.name entity.tableName = provided registrants entity := by
  rw [Registry.resolve, Registry.constructor?_registerAll filled,
    constructor?_of_registered registered, provided]
  cases own : custom? registrants entity.name with
  | some constructor => rfl
  | none =>
    -- the entity is among those for which a table in the store was registered
    have open' : entity.name ∈ unregistered registry entities := by
      rw [unregistered_eq registered]
      exact List.mem_map_of_mem (List.mem_filter.2 ⟨mem, by rw [own]; rfl⟩)
    have found : (((unregistered registry entities).map Registrant.memory).find? fun r =>
        r.registration = .of memoryBackend entity.name).isSome = true :=
      List.find?_isSome.2 ⟨_, List.mem_map_of_mem open', decide_eq_true rfl⟩
    obtain ⟨registrant, found⟩ := Option.isSome_iff_exists.1 found
    obtain ⟨name, -, rfl⟩ := List.mem_map.1 (List.mem_of_find?_eq_some found)
    rw [found]
    rfl

/-- **Composition of valid configurations.** A valid configuration for the store is composed just if
the names of its entities are apart; else it is refused since one of them is registered already. In
the host every entity has the provider of the constructor that was registered for it beforehand, or
else one of its own table in the store, and the names are those of the entities in ascending
order. -/
theorem build_cases {configuration : Configuration} (valid : configuration.validate = .ok ())
    (memory : configuration.database = .memory)
    (registered : Registry.empty.registerAll registrants = .ok registry)
    (makes : ∀ entity ∈ configuration.entities, ∀ constructor,
      custom? registrants entity.name = some constructor →
        ∃ provider, constructor entity.tableName = .ok provider)
    (connected : Bool) :
    (NamesApart registrants configuration.entities ∧
      ∃ host, build configuration registry connected none = .ok host ∧
        (∀ entity ∈ configuration.entities,
          host.provider entity.name = provided registrants entity) ∧
        host.entityNames.Perm (configuration.entities.map EntitySettings.name) ∧
        host.entityNames.Pairwise fun a b => Text.compare a b = .lt) ∨
    (¬ NamesApart registrants configuration.entities ∧
      ∃ entity ∈ configuration.entities, build configuration registry connected none =
        .error (.store (.alreadyRegistered memoryBackend (Text.trim entity.name)))) := by
  have available : (!connected && configuration.database != .memory) = false := by simp [memory]
  rw [build, available, ← admits_memory_iff registered]
  rcases registry.registerAll_cases
      ((unregistered registry configuration.entities).map .memory) with
    ⟨apart, after, filled⟩ | ⟨clash, registrant, mem, refused⟩
  · have resolves : ∀ entity ∈ configuration.entities,
        after.resolve memoryBackend entity.name entity.tableName =
          provided registrants entity := fun entity mem => resolve_eq_provided registered filled mem
    have made : ∀ entity ∈ configuration.entities, ∃ provider,
        after.resolve memoryBackend entity.name entity.tableName = .ok provider := by
      intro entity mem
      rw [resolves entity mem, provided]
      cases own : custom? registrants entity.name with
      | some constructor => exact makes entity mem constructor own
      | none => exact ⟨_, rfl⟩
    obtain ⟨providers, resolved⟩ := exists_resolveAll made
    have distinct := configuration.names_nodup_of_validate valid
    have names := names_of_resolveAll resolved
    have kept : Members.distinct providers = providers :=
      Members.distinct_of_nodup (names ▸ distinct)
    refine .inl ⟨apart, ⟨configuration, providers⟩, ?_, fun entity mem => ?_, ?_⟩
    · simp only [(registry.registerMemory_eq _).1 filled, Option.getD_none, resolved, kept]
      rfl
    · obtain ⟨provider, found, resolved⟩ := get?_of_resolveAll distinct resolved mem
      rw [← resolves entity mem, resolved, Host.provider, found]
    · rw [← names]
      exact entityNames_ascending (names ▸ distinct)
  · obtain ⟨name, open', rfl⟩ := List.mem_map.1 mem
    obtain ⟨entity, kept, rfl⟩ := List.mem_map.1 open'
    refine .inr ⟨clash, entity, (List.mem_filter.1 kept).1, ?_⟩
    have stopped := (registry.registerMemory_eq _).2 refused
    rw [Registrant.refusal, Registrant.registration_memory] at stopped
    simp only [Bool.false_eq_true, if_false]
    generalize registry.registerMemory (unregistered registry configuration.entities) = result
      at stopped
    obtain ⟨e, partly⟩ := result
    obtain rfl : e = _ := stopped
    rfl

/-- Courses from a constructor of their own, and students in the store. -/
theorem campus_is_composed :
    let registrants : List Registrant :=
      [⟨" memory", "course ", fun table => .ok ⟨"ledger", table⟩⟩]
    let configuration := (Configuration.default.withEntity ⟨"student", some "students"⟩).withEntity
      ⟨"course", none⟩
    ∃ registry host, Registry.empty.registerAll registrants = .ok registry ∧
      build configuration registry false none = .ok host ∧
      host.provider "course" = .ok ⟨"ledger", "course"⟩ ∧
      host.provider "student" = .ok ⟨memoryBackend, "students"⟩ := by
  intro registrants configuration
  obtain ⟨apart, host, built, provides, -⟩ | ⟨clash, -⟩ :=
    @build_cases registrants _ configuration rfl rfl rfl
      (by
        intro entity mem constructor own
        rcases List.mem_cons.1 mem with rfl | mem
        · cases own
        · obtain rfl := List.mem_singleton.1 mem
          cases own
          exact ⟨_, rfl⟩) false
  · refine ⟨_, host, rfl, built, ?_, ?_⟩
    · exact provides ⟨"course", none⟩ (by decide)
    · exact provides ⟨"student", some "students"⟩ (by decide)
  · exact absurd (by decide) clash

/-- Two entities whose names differ only in a blank are configured, and are refused. -/
theorem padded_name_is_refused :
    let configuration := (Configuration.default.withEntity ⟨"a", none⟩).withEntity ⟨" a ", none⟩
    configuration.validate = .ok () ∧ configuration.database = .memory ∧
      build configuration .empty false none =
        .error (.store (.alreadyRegistered memoryBackend "a")) :=
  ⟨rfl, rfl, rfl⟩

end Host

end RecordStore
