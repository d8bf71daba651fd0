import RecordStore.Text.Basic
import RecordStore.Yaml.Node

/-!
# Configuration

What a host is told at startup: the database, the entities with their tables, and a few settings.
It is read from a YAML text, and environment variables may override parts of it.

* `Configuration.parse` — reading a YAML text;
* `Configuration.override` — overriding by a lookup of variables;
* `Configuration.validate` — what a configuration must satisfy;
* `Configuration.Fault` — what can be wrong.
-/

namespace RecordStore

-- the power of the core library, also where monoids have one
attribute [local instance (20000)] instPowNat

/-- The databases that can be configured. -/
inductive DatabaseKind where
  | memory
  | postgres
  | mongodb
  deriving DecidableEq

namespace DatabaseKind

/-- The name under which the providers of a database are registered. -/
def name : DatabaseKind → String
  | .memory => "memory"
  | .postgres => "postgres"
  | .mongodb => "mongodb"

/-- The names in a configuration, with their aliases. -/
def documentNames : List (String × DatabaseKind) := [
  ("memory", .memory), ("mock", .memory), ("postgres", .postgres), ("mongodb", .mongodb),
  ("mongo", .mongodb)]

/-- The names in a variable, where there is one more alias. -/
def variableNames : List (String × DatabaseKind) := ("postgresql", .postgres) :: documentNames

end DatabaseKind

/-- What can be wrong with a configuration. -/
inductive Configuration.Fault where
  | malformed
  | pageSize (size : Int)
  | blankEntityName
  | repeatedEntity (name : String)
  | missingUrl (kind : DatabaseKind)
  | unknownKind (name : String)
  | notAvailable (kind : DatabaseKind)

/-- The wording of a fault. -/
def Configuration.Fault.message : Configuration.Fault → String
  | .malformed => "malformed configuration"
  | .pageSize size => s!"default_page_size must be >= 1, got {size}"
  | .blankEntityName => "Entity names must not be empty"
  | .repeatedEntity name => s!"Entity '{name}' is configured twice"
  | .missingUrl kind =>
    let name := kind.name
    s!"Database provider '{name}' requires a url"
  | .unknownKind name => s!"Unknown database provider '{name}'"
  | .notAvailable kind =>
    let name := kind.name
    s!"Database provider '{name}' is not compiled in; enable its cargo feature"

/-- The database of a name given in a variable, without regard to blanks around it and to case. -/
def DatabaseKind.parse (text : String) : Except Configuration.Fault DatabaseKind :=
  let name := Text.asciiLowercase (Text.trim text)
  match Members.get? name variableNames with
  | some kind => .ok kind
  | none => .error (.unknownKind name)

/-- An entity and its table, which is named like the entity unless something else is said. -/
structure EntitySettings where
  name : String
  table : Option String
  deriving DecidableEq

/-- The table of an entity. -/
def EntitySettings.tableName (entity : EntitySettings) : String := entity.table.getD entity.name

/-- The settings of a host. -/
structure Configuration where
  database : DatabaseKind
  url : Option String
  databaseName : Option String
  authProvider : String
  log : String
  defaultPageSize : Int32
  entities : List EntitySettings
  deriving DecidableEq

namespace Configuration

/-- The settings of an empty document. -/
def default : Configuration := ⟨.memory, none, none, "none", "info", 20, []⟩

/-- The settings of the first entity of a name. -/
def entity? (configuration : Configuration) (name : String) : Option EntitySettings :=
  configuration.entities.find? fun entity => entity.name == name

/-- Add an entity. -/
def withEntity (configuration : Configuration) (entity : EntitySettings) : Configuration :=
  { configuration with entities := configuration.entities ++ [entity] }

/-- Entities must have names, all of them different; `seen` are the names before them. -/
def validateEntities (seen : List String) : List EntitySettings → Except Fault Unit
  | [] => .ok ()
  | entity :: rest =>
    if Text.isBlankText entity.name then .error .blankEntityName
    else if seen.contains entity.name then .error (.repeatedEntity entity.name)
    else validateEntities (entity.name :: seen) rest

/-- The page size must be positive, the entities must have different names, and a database other
than the store needs a URL. -/
def validate (configuration : Configuration) : Except Fault Unit := do
  if configuration.defaultPageSize.toInt < 1 then
    .error (.pageSize configuration.defaultPageSize.toInt)
  validateEntities [] configuration.entities
  if configuration.database ≠ .memory ∧ configuration.url = none then
    .error (.missingUrl configuration.database)

/-- A member that must be there. -/
def requiredMember {α : Type} (read : Yaml → Option α) (name : String)
    (members : List (String × Yaml)) : Option α := do
  let slot ← Members.only? name members
  slot.bind read

/-- A member with a default value. -/
def memberOr {α : Type} (default : α) (read : Yaml → Option α) (name : String)
    (members : List (String × Yaml)) : Option α := do
  match ← Members.only? name members with
  | none => some default
  | some node => read node

/-- A 32-bit integer. -/
def int32? (document : Yaml.Document) (node : Yaml) : Option Int32 :=
  ((document.integer? node).filter fun i =>
    decide (-2 ^ (31 : Nat) ≤ i ∧ i < 2 ^ (31 : Nat))).map Int32.ofInt

/-- The settings of an entity. -/
def entityOfYaml? (document : Yaml.Document) (node : Yaml) : Option EntitySettings := do
  let members ← document.members? node
  let name ← requiredMember document.text? "name" members
  let table ← memberOr none document.optionalText? "table" members
  some ⟨name, table⟩

/-- The database, its URL and its name. -/
def databaseOfYaml? (document : Yaml.Document) (node : Yaml) :
    Option (DatabaseKind × Option String × Option String) := do
  let members ← document.members? node
  let kind ← memberOr .memory
    (fun node => (document.name? node).bind (Members.get? · DatabaseKind.documentNames)) "provider"
    members
  let url ← memberOr none document.optionalText? "url" members
  let name ← memberOr none document.optionalText? "name" members
  some (kind, url, name)

/-- The settings of a document; unknown members are skipped, and every known one may be missing. -/
def ofYaml? (document : Yaml.Document) : Option Configuration := do
  let members ← document.members? document.root
  let (database, url, databaseName) ← memberOr (.memory, none, none) (databaseOfYaml? document)
    "database" members
  let authProvider ← memberOr default.authProvider document.text? "auth_provider" members
  let log ← memberOr default.log document.text? "log" members
  let defaultPageSize ← memberOr default.defaultPageSize (int32? document) "default_page_size"
    members
  let entities ← memberOr []
    (fun node => (document.items? node).bind fun items => items.mapM (entityOfYaml? document))
    "entities" members
  some { database, url, databaseName, authProvider, log, defaultPageSize, entities }

/-- The valid settings of a YAML text. -/
def parse (text : String) : Except Fault Configuration := do
  match (Yaml.parse? text).bind ofYaml? with
  | none => .error .malformed
  | some configuration =>
    configuration.validate
    .ok configuration

/-- Override settings by the variables that have a value which is not blank. -/
def override (configuration : Configuration) (lookup : String → Option String) :
    Except Fault Configuration := do
  let get (name : String) : Option String :=
    (lookup name).filter fun value => !Text.isBlankText value
  let database ← (match get "BIZSTORE_DATABASE_PROVIDER" with
    | some name => DatabaseKind.parse name
    | none => .ok configuration.database)
  let overridden := { configuration with
    database
    authProvider := (get "BIZSTORE_AUTH_PROVIDER").getD configuration.authProvider
    url := (get "BIZSTORE_DATABASE_URL").or configuration.url
    databaseName := (get "BIZSTORE_DATABASE_NAME").or configuration.databaseName
    log := (get "BIZSTORE_LOG").getD configuration.log }
  overridden.validate
  .ok overridden

end Configuration

end RecordStore
