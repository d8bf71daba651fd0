import RecordStore.Configuration
import RecordStore.Registry
import RecordStore.Transaction.Manager

/-!
# Hosts

A host is what a configuration is composed to: a provider for every configured entity, and the way
in which units of work are run.

* `Host.build` — composition;
* `Host.provider` — the provider of an entity.
-/

namespace RecordStore

/-- What can go wrong in the composition of a host. -/
inductive BuildFault where
  | configuration (fault : Configuration.Fault)
  | store (error : StoreError)

/-- Providers by the names of their entities, and the settings they come from. -/
structure Host where
  configuration : Configuration
  providers : List (String × Provider)

namespace Host

/-- The entities for which no provider of the store is registered. -/
def unregistered (registry : Registry) (entities : List EntitySettings) : List String :=
  (entities.filter fun entity => !registry.contains memoryBackend entity.name).map
    EntitySettings.name

/-- The providers of entities, resolved under the name of a backend. -/
def resolveAll (registry : Registry) (backend : String) :
    List EntitySettings → Except StoreError (List (String × Provider))
  | [] => .ok []
  | entity :: rest => do
    let provider ← registry.resolve backend entity.name entity.tableName
    let providers ← resolveAll registry backend rest
    .ok ((entity.name, provider) :: providers)

/-- Compose a host. Without a connection that is handed over only the store can be connected to.
Providers of the store fill what the given registrations left open, and all of them are resolved
under the name of the backend or under another one that is given. -/
def build (configuration : Configuration) (registry : Registry) (connected : Bool)
    (backend : Option String) : Except BuildFault Host :=
  if !connected && configuration.database != .memory then
    .error (.configuration (.notAvailable configuration.database))
  else
    match registry.registerMemory (unregistered registry configuration.entities) with
    | (some e, _) => .error (.store e)
    | (none, registry) =>
      match resolveAll registry (backend.getD memoryBackend) configuration.entities with
      | .error e => .error (.store e)
      | .ok providers => .ok ⟨configuration, Members.distinct providers⟩

/-- The provider of an entity. -/
def provider (host : Host) (entity : String) : Except StoreError Provider :=
  match Members.get? entity host.providers with
  | some provider => .ok provider
  | none => .error (.providerNotRegistered memoryBackend entity)

/-- Put a name into an ascending list. -/
def insertName (name : String) : List String → List String
  | [] => [name]
  | other :: rest =>
    if Text.le name other then name :: other :: rest else other :: insertName name rest

/-- The names of the entities in ascending order. -/
def entityNames (host : Host) : List String :=
  (Members.names host.providers).foldr insertName []

/-- The way in which units of work are run: in transactions of the store. -/
def manager (_host : Host) : Manager := .transactional .reliable

/-- The text of a host in diagnostics. -/
def describe (host : Host) : String :=
  let entities := Text.joinWith ", " (host.entityNames.map Text.quote)
  let backend := Text.quote memoryBackend
  "AppHost \x7b connection: " ++ describeConnection ++ ", entities: [" ++ entities ++
    "], transactions: TransactionManager \x7b backend: Some(" ++ backend ++ ") \x7d \x7d"

end Host

end RecordStore
