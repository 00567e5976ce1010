import KeyDepot.Storage.BrittleStore
import KeyDepot.Storage.DurableStore
import KeyDepot.Storage.NullStore

namespace KeyDepot

inductive Store where
  | map (store : MapStore)
  | null (store : NullStore)
  | durable (store : DurableStore Entries)
  | brittle (store : BrittleStore)
  deriving Inhabited

namespace Store

/-- An outcome of one engine as an outcome of the whole. -/
private def lift {σ α : Type} (wrap : σ → Store) (outcome : Outcome σ α) : Outcome Store α :=
  (outcome.1, wrap outcome.2)

instance : Engine Store where
  openDatabase name
    | map store => lift map (Engine.openDatabase name store)
    | null store => lift null (Engine.openDatabase name store)
    | durable store => lift durable (Engine.openDatabase name store)
    | brittle store => lift brittle (Engine.openDatabase name store)
  installOrder order
    | map store => lift map (Engine.installOrder order store)
    | null store => lift null (Engine.installOrder order store)
    | durable store => lift durable (Engine.installOrder order store)
    | brittle store => lift brittle (Engine.installOrder order store)
  perform operation
    | map store => lift map (Engine.perform operation store)
    | null store => lift null (Engine.perform operation store)
    | durable store => lift durable (Engine.perform operation store)
    | brittle store => lift brittle (Engine.perform operation store)

/-- The engine of a backend, with its order installed before any key can come in. A durable engine
finds the databases on the shelf. -/
def create (shelf : Shelf Entries) (backend : Backend) (options : StoreOptions)
    (order : Option KeyOrder) : Except Error Store :=
  let store := match backend with
    | .map => map { options }
    | .null => null {}
    | .durable => durable { options, shelf }
  match order with
  | none => .ok store
  | some order =>
    match Engine.installOrder order store with
    | (.ok (), store) => .ok store
    | (.error error, _) => .error error

/-- What the store leaves on the shelf when it closes; nothing, unless it is durable. -/
def leave? : Store → Option (OpenDatabase Entries)
  | durable store => if store.options.inMemory then none else store.current
  | _ => none

end Store

end KeyDepot
