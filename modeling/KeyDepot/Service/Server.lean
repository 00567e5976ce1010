import KeyDepot.Service.Provider
import KeyDepot.Settings

namespace KeyDepot

structure Server (σ : Type) where
  settings : Settings := {}
  providers : List (Provider σ) := []
  stopped : Bool := false
  build : Build := .release

namespace Server

variable {σ : Type}

instance : Inhabited (Server σ) := ⟨{}⟩

def provider? (id : UInt8) (server : Server σ) : Option (Provider σ) :=
  server.providers.find? fun provider => provider.id == id

/-- Makes a provider reachable under its number. -/
def register (provider : Provider σ) (server : Server σ) : Outcome (Server σ) UInt8 :=
  match server.provider? provider.id with
  | some _ => (.error (.providerExists provider.id), server)
  | none => (.ok provider.id, { server with providers := server.providers ++ [provider] })

/-- The server with a new state of the provider that has the same number. -/
def update (provider : Provider σ) (server : Server σ) : Server σ :=
  let replace (other : Provider σ) : Provider σ :=
    if other.id == provider.id then provider else other
  { server with providers := server.providers.map replace }

/-- Runs an operation on a database of a provider, open or removed. -/
def perform? [Engine σ] (target : UInt8) (db : DatabaseId) (operation : Operation)
    (server : Server σ) : Option (Outcome (Server σ) operation.Answer) := do
  let provider ← server.provider? target
  let (outcome, provider) ← provider.perform? db operation
  return (outcome, server.update provider)

/-- Tells the server to take no more connections and to close those it has. -/
def stop (server : Server σ) : Server σ :=
  { server with stopped := true }

/-- Flushes the databases of all providers. What fails is left alone. -/
def flush [Engine σ] (server : Server σ) : Server σ :=
  { server with providers := server.providers.map fun provider => provider.syncAll.2 }

/-- Whether one more connection can be taken while `active` are served. -/
def accepts (active : Nat) (server : Server σ) : Bool :=
  !server.stopped && decide (active < server.settings.maxConnections)

end Server

end KeyDepot
