import KeyDepot.Service.Database

/-!
The databases of one provider, by number and by name. Numbers are given in ascending order and never
again; a name belongs to at most one open database. A database that was removed can still be used by
calls under way and by callers that kept it.
-/

namespace KeyDepot

structure Registry (σ : Type) where
  /-- The number of the next database. -/
  next : Nat := 1
  /-- The open databases. -/
  databases : List (Database σ) := []
  /-- The names of the open databases with their numbers. -/
  names : List (String × DatabaseId) := []
  /-- The databases that were removed. -/
  removed : List (Database σ) := []

namespace Registry

variable {σ : Type}

instance : Inhabited (Registry σ) := ⟨{}⟩

/-- The open database with this number. -/
def get? (id : DatabaseId) (registry : Registry σ) : Option (Database σ) :=
  registry.databases.find? fun db => db.id == id

/-- The number of the open database with this name. -/
def find? (name : String) (registry : Registry σ) : Option DatabaseId :=
  registry.names.lookup name

/-- The database with this number, open or removed. -/
def kept? (id : DatabaseId) (registry : Registry σ) : Option (Database σ) :=
  registry.get? id <|> registry.removed.find? fun db => db.id == id

/-- The numbers of the open databases, ascending. -/
def ids (registry : Registry σ) : List DatabaseId :=
  registry.databases.map Database.id

def size (registry : Registry σ) : Nat := registry.databases.length

/-- Opens the engine under the name of the declaration and enters it. When the name is taken or the
engine does not open, nothing changes. -/
def insert [Engine σ] (config : DatabaseConfig) (store : σ) (registry : Registry σ) :
    Outcome (Registry σ) DatabaseId :=
  match registry.find? config.name with
  | some _ => (.error (.databaseExists config.name), registry)
  | none =>
    match Engine.openDatabase config.name store with
    | (.error error, _) => (.error error, registry)
    | (.ok (), store) =>
      let id : DatabaseId := ⟨UInt64.ofNat registry.next⟩
      (.ok id,
        { registry with
          next := registry.next + 1
          databases := registry.databases ++ [{ id, config, store }]
          names := (config.name, id) :: registry.names })

/-- Closes a database, and gives back what was closed. -/
def remove (id : DatabaseId) (registry : Registry σ) : Option (Database σ) × Registry σ :=
  match registry.get? id with
  | none => (none, registry)
  | some db =>
    (some db,
      { registry with
        databases := registry.databases.filter fun other => other.id != id
        names := registry.names.filter fun entry => entry.1 != db.config.name
        removed := db :: registry.removed })

/-- The registry with a new state of one of its databases, open or removed. -/
def update (db : Database σ) (registry : Registry σ) : Registry σ :=
  let replace (other : Database σ) : Database σ := if other.id == db.id then db else other
  { registry with
    databases := registry.databases.map replace
    removed := registry.removed.map replace }

/-- Runs an operation on the database with this number, open or removed. -/
def perform? [Engine σ] (id : DatabaseId) (operation : Operation) (registry : Registry σ) :
    Option (Outcome (Registry σ) operation.Answer) :=
  (registry.kept? id).map fun db =>
    let (outcome, db) := db.perform operation
    (outcome, registry.update db)

/-- Flushes the databases with these numbers in this order, up to the first that fails. -/
def syncIn [Engine σ] : List DatabaseId → Registry σ → Outcome (Registry σ) Unit
  | [], registry => (.ok (), registry)
  | id :: rest, registry =>
    match registry.perform? id .sync with
    | none => syncIn rest registry
    | some (.error error, registry) => (.error error, registry)
    | some (.ok (), registry) => syncIn rest registry

/-- Flushes the open databases. -/
def syncAll [Engine σ] (registry : Registry σ) : Outcome (Registry σ) Unit :=
  registry.syncIn registry.ids

end Registry

end KeyDepot
