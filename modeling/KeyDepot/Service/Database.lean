import KeyDepot.Storage.Engine
import KeyDepot.Storage.Options

namespace KeyDepot

/-- The declaration of a database. -/
structure DatabaseConfig where
  name : String
  /-- The directory its files lie in, for an engine that has files. -/
  path : String := "."
  backend : Backend := .map
  options : StoreOptions := {}
  /-- The name of an order registered with the provider. -/
  order : Option String := none
  deriving DecidableEq, Repr, Inhabited

structure Database (σ : Type) where
  id : DatabaseId
  config : DatabaseConfig
  store : σ
  poisoned : Bool := false

namespace Database

variable {σ : Type}

/-- Whether an outcome is a failure of the engine itself. -/
def poisons {α : Type} : Except Error α → Bool
  | .error (.engine _) => true
  | _ => false

/-- Runs an operation unless the database is poisoned. -/
def perform [Engine σ] (operation : Operation) (db : Database σ) :
    Outcome (Database σ) operation.Answer :=
  if db.poisoned then (.error (.poisoned db.id), db)
  else
    let (outcome, store) := Engine.perform operation db.store
    (outcome, { db with store, poisoned := poisons outcome })

end Database

end KeyDepot
