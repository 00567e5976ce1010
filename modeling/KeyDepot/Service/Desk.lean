import KeyDepot.Service.Server
import KeyDepot.Storage.Store

/-!
The administration of a server: declaring databases, taking them away, and keeping hold of one that
may be taken away. What a durable database holds when it is taken away, and what callers that kept
it write after that, lies on the shelf until a database of that name is declared again.
-/

namespace KeyDepot

/-- A database of a provider, open or removed. -/
structure Holding where
  provider : UInt8
  db : DatabaseId
  deriving DecidableEq, Repr, Inhabited

structure Desk where
  server : Server Store := {}
  shelf : Shelf Entries := []
  /-- The databases kept under a name. -/
  holdings : List (String × Holding) := []

namespace Desk

instance : Inhabited Desk := ⟨{}⟩

/-- The provider with this number; one that is not registered looks like an empty one. -/
def provider (id : UInt8) (desk : Desk) : Provider Store :=
  (desk.server.provider? id).getD { id }

/-- Replaces the state of a registered provider. -/
def update (provider : Provider Store) (desk : Desk) : Desk :=
  { desk with server := desk.server.update provider }

/-- Runs an action of one provider. -/
def onProvider {α : Type} (id : UInt8) (run : Provider Store → Outcome (Provider Store) α)
    (desk : Desk) : Outcome Desk α :=
  let (outcome, provider) := run (desk.provider id)
  (outcome, desk.update provider)

/-- A desk at which one new provider is set up, before it is registered. -/
def apart (id : UInt8) (desk : Desk) : Desk :=
  { desk with server := { providers := [{ id }] } }

/-- Registers the provider that was set up apart, with a server. -/
def enroll (id : UInt8) (server : Server Store) (apart : Desk) : Outcome Desk UInt8 :=
  let (outcome, server) := server.register (apart.provider id)
  (outcome, { apart with server })

/-- Registers a provider without databases. -/
def register (id : UInt8) (desk : Desk) : Outcome Desk UInt8 :=
  (desk.apart id).enroll id desk.server

def addOrder (id : UInt8) (order : KeyOrder) : Desk → Outcome Desk Unit :=
  onProvider id (Provider.addOrder order)

/-- Makes and opens the database of a declaration. -/
def declare (id : UInt8) (config : DatabaseConfig) (desk : Desk) : Outcome Desk DatabaseId :=
  let create := Store.create desk.shelf config.backend config.options
  desk.onProvider id (Provider.addDatabase create config)

/-- Makes and opens a database with an order given by hand; the one its declaration names is not
looked up. -/
def declareOrdered (id : UInt8) (config : DatabaseConfig) (order : Option KeyOrder)
    (desk : Desk) : Outcome Desk DatabaseId :=
  let create := Store.create desk.shelf config.backend config.options
  desk.onProvider id (Provider.openWith create config order)

/-- Opens a database with a ready-made engine. -/
def attach (id : UInt8) (config : DatabaseConfig) (store : Store) :
    Desk → Outcome Desk DatabaseId :=
  onProvider id (Provider.attachDatabase config store)

/-- Puts what a closed database holds on the shelf, when it is durable. -/
def shelve (closed : Database Store) (desk : Desk) : Desk :=
  match closed.store.leave? with
  | none => desk
  | some left => { desk with shelf := desk.shelf.store left.name left.map }

/-- Closes a database, and tells whether it was open. -/
def remove (id : UInt8) (db : DatabaseId) (desk : Desk) : Bool × Desk :=
  let (closed, provider) := (desk.provider id).removeDatabase db
  let desk := desk.update provider
  match closed with
  | none => (false, desk)
  | some closed => (true, desk.shelve closed)

/-- The database behind a holding. -/
def kept? (holding : Holding) (desk : Desk) : Option (Database Store) :=
  (desk.provider holding.provider).registry.kept? holding.db

/-- The open database with this number. -/
def open? (id : UInt8) (db : DatabaseId) (desk : Desk) : Option Holding :=
  ((desk.provider id).registry.get? db).map fun _ => ⟨id, db⟩

/-- Keeps hold of an open database under a name, and tells whether there was one. -/
def hold (id : UInt8) (db : DatabaseId) (name : String) (desk : Desk) : Bool × Desk :=
  match desk.open? id db with
  | none => (false, desk)
  | some holding => (true, { desk with holdings := (name, holding) :: desk.holdings })

def holding? (name : String) (desk : Desk) : Option Holding :=
  desk.holdings.lookup name

/-- Runs an operation on a database, open or removed, and tells whether it is poisoned after that.
A durable database that was removed has the state it ends in on the shelf. -/
def perform? (holding : Holding) (operation : Operation) (desk : Desk) :
    Option (Outcome Desk operation.Answer × Bool) := do
  let (outcome, provider) ← (desk.provider holding.provider).perform? holding.db operation
  let desk := desk.update provider
  let db ← desk.kept? holding
  let desk := if (desk.open? holding.provider holding.db).isSome then desk else desk.shelve db
  return ((outcome, desk), db.poisoned)

def syncAll (id : UInt8) : Desk → Outcome Desk Unit :=
  onProvider id Provider.syncAll

end Desk

end KeyDepot
