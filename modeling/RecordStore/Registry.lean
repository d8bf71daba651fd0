import RecordStore.Error
import RecordStore.Text.Basic
import RecordStore.Text.Quoted
import RecordStore.Transaction.Basic

/-!
# The provider registry

Constructors of providers, registered under the name of a backend and of an entity. Names are
trimmed wherever they come in, the first registration of a pair wins, and the pairs are kept in
ascending order.

* `Provider`, `Constructor` — where the records of a table are, and how that is found out;
* `Registry.register`, `Registry.resolve`, `Registry.contains`, `Registry.registrations`.
-/

namespace RecordStore

/-- Where records are: in a table of a backend. -/
structure Provider where
  backend : String
  table : String
  deriving DecidableEq

/-- Makes a provider of a table. -/
abbrev Constructor := String → Except StoreError Provider

/-- The constructor of tables in the store. -/
def Constructor.memory : Constructor := fun table => .ok ⟨memoryBackend, table⟩

/-- The constructor that refuses every table. -/
def Constructor.refusing : Constructor := fun table =>
  .error (.internal s!"no provider for '{table}'")

/-- The name of a backend and of an entity. -/
structure Registration where
  provider : String
  entity : String
  deriving DecidableEq

namespace Registration

/-- The pair of the trimmed names. -/
def of (provider entity : String) : Registration := ⟨Text.trim provider, Text.trim entity⟩

/-- The order of pairs, by code points. -/
def compare (a b : Registration) : Ordering :=
  (Text.compare a.provider b.provider).then (Text.compare a.entity b.entity)

/-- The text of a pair in diagnostics. -/
def describe (registration : Registration) : String :=
  let provider := Text.quote registration.provider
  let entity := Text.quote registration.entity
  s!"({provider}, {entity})"

end Registration

/-- Constructors by their pair of names, in ascending order. -/
structure Registry where
  entries : List (Registration × Constructor)

namespace Registry

/-- Nothing is registered. -/
def empty : Registry := ⟨[]⟩

/-- The constructor of a pair of trimmed names. -/
def find? (registration : Registration) : List (Registration × Constructor) → Option Constructor
  | [] => none
  | (other, constructor) :: rest =>
    if other = registration then some constructor else find? registration rest

/-- Put a pair into its place. -/
def insert (registration : Registration) (constructor : Constructor) :
    List (Registration × Constructor) → List (Registration × Constructor)
  | [] => [(registration, constructor)]
  | (other, old) :: rest =>
    if registration.compare other = .lt then (registration, constructor) :: (other, old) :: rest
    else (other, old) :: insert registration constructor rest

/-- The constructor of a pair of names. -/
def constructor? (registry : Registry) (provider entity : String) : Option Constructor :=
  find? (.of provider entity) registry.entries

/-- Whether a pair of names is registered. -/
def contains (registry : Registry) (provider entity : String) : Bool :=
  (registry.constructor? provider entity).isSome

/-- Register a constructor, unless its pair of names is taken. -/
def register (registry : Registry) (provider entity : String) (constructor : Constructor) :
    Except StoreError Registry :=
  let registration := Registration.of provider entity
  if registry.contains provider entity then
    .error (.alreadyRegistered registration.provider registration.entity)
  else .ok ⟨insert registration constructor registry.entries⟩

/-- Register tables in the store for entities, one after the other. What was registered before a
failure stays so. -/
def registerMemory (registry : Registry) : List String → Option StoreError × Registry
  | [] => (none, registry)
  | entity :: rest =>
    match registry.register memoryBackend entity .memory with
    | .error e => (some e, registry)
    | .ok registry => registry.registerMemory rest

/-- The provider that the constructor of a pair of names makes of a table. -/
def resolve (registry : Registry) (provider entity table : String) : Except StoreError Provider :=
  match registry.constructor? provider entity with
  | some constructor => constructor table
  | none =>
    let registration := Registration.of provider entity
    .error (.providerNotRegistered registration.provider registration.entity)

/-- The registered pairs in ascending order. -/
def registrations (registry : Registry) : List Registration := registry.entries.map Prod.fst

/-- The number of registered pairs. -/
def size (registry : Registry) : Nat := registry.entries.length

/-- The text of a registry in diagnostics. -/
def describe (registry : Registry) : String :=
  let pairs := Text.joinWith ", " (registry.registrations.map Registration.describe)
  "ProviderRegistry \x7b registrations: [" ++ pairs ++ "] \x7d"

end Registry

/-- The text of a connection to the store in diagnostics. -/
def describeConnection : String := s!"Connection({memoryBackend})"

end RecordStore
