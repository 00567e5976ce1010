import KeyDepot.Service.Registry

namespace KeyDepot

/-- How often each kind of call was served; a counter that is full begins anew. -/
structure Tally where
  count : Rpc → UInt64 := fun _ => 0

namespace Tally

/-- The counters in their order. -/
def counts (tally : Tally) : List (Rpc × UInt64) :=
  Rpc.all.map fun rpc => (rpc, tally.count rpc)

def record (rpc : Rpc) (tally : Tally) : Tally :=
  { count := fun kind => if kind = rpc then tally.count kind + 1 else tally.count kind }

end Tally

structure Provider (σ : Type) where
  id : UInt8
  registry : Registry σ := {}
  orders : List KeyOrder := []
  tally : Tally := {}

namespace Provider

variable {σ : Type}

instance : Inhabited (Provider σ) := ⟨{ id := 0 }⟩

/-- Makes an order known under its name. -/
def addOrder (order : KeyOrder) (provider : Provider σ) : Outcome (Provider σ) Unit :=
  if provider.orders.any fun known => known.name == order.name then
    (.error (.invalidArgument (.orderTaken order.name)), provider)
  else (.ok (), { provider with orders := provider.orders ++ [order] })

/-- The order a declaration asks for, if it asks for one. -/
def resolveOrder (config : DatabaseConfig) (provider : Provider σ) :
    Except Error (Option KeyOrder) :=
  match config.order with
  | none => .ok none
  | some name =>
    match provider.orders.find? fun order => order.name == name with
    | some order => .ok (some order)
    | none => .error (.invalidArgument (.orderUnknown name))

/-- Enters an engine under its declaration. -/
def insert [Engine σ] (config : DatabaseConfig) (store : σ) (provider : Provider σ) :
    Outcome (Provider σ) DatabaseId :=
  let (outcome, registry) := provider.registry.insert config store
  (outcome, { provider with registry })

/-- Makes an engine with an order that is resolved already, and enters it. -/
def openWith [Engine σ] (create : Option KeyOrder → Except Error σ) (config : DatabaseConfig)
    (order : Option KeyOrder) (provider : Provider σ) : Outcome (Provider σ) DatabaseId :=
  match create order with
  | .error error => (.error error, provider)
  | .ok store => provider.insert config store

/-- Makes the engine a declaration asks for, and enters it. -/
def addDatabase [Engine σ] (create : Option KeyOrder → Except Error σ) (config : DatabaseConfig)
    (provider : Provider σ) : Outcome (Provider σ) DatabaseId :=
  match provider.resolveOrder config with
  | .error error => (.error error, provider)
  | .ok order => provider.openWith create config order

/-- Enters a ready-made engine, with the order its declaration asks for. -/
def attachDatabase [Engine σ] (config : DatabaseConfig) (store : σ) (provider : Provider σ) :
    Outcome (Provider σ) DatabaseId :=
  match provider.resolveOrder config with
  | .error error => (.error error, provider)
  | .ok none => provider.insert config store
  | .ok (some order) =>
    match Engine.installOrder order store with
    | (.error error, _) => (.error error, provider)
    | (.ok (), store) => provider.insert config store

/-- Closes a database, and gives back what was closed. -/
def removeDatabase (id : DatabaseId) (provider : Provider σ) :
    Option (Database σ) × Provider σ :=
  let (closed, registry) := provider.registry.remove id
  (closed, { provider with registry })

/-- Counts a call. -/
def record (rpc : Rpc) (provider : Provider σ) : Provider σ :=
  { provider with tally := provider.tally.record rpc }

/-- Runs an operation on a database, open or removed. -/
def perform? [Engine σ] (id : DatabaseId) (operation : Operation) (provider : Provider σ) :
    Option (Outcome (Provider σ) operation.Answer) :=
  (provider.registry.perform? id operation).map fun (outcome, registry) =>
    (outcome, { provider with registry })

def syncAll [Engine σ] (provider : Provider σ) : Outcome (Provider σ) Unit :=
  let (outcome, registry) := provider.registry.syncAll
  (outcome, { provider with registry })

end Provider

end KeyDepot
