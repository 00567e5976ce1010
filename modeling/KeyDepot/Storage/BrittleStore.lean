import KeyDepot.Storage.MapStore

namespace KeyDepot

structure BrittleStore where
  /-- The switch. -/
  broken : Bool := false
  /-- The keys that are set to fail, with their failures. -/
  faults : List (Bytes × Error) := []
  map : MapStore
  deriving Inhabited

namespace BrittleStore

/-- The failure of an operation on this key. -/
def fault? (key : Bytes) (store : BrittleStore) : Option Error :=
  if store.broken then some (.engine "disk gone")
  else store.faults.lookup key

/-- Runs an operation of the map store unless its key is set to fail. -/
def guarded {α : Type} (key : Bytes) (run : MapStore → Outcome MapStore α)
    (store : BrittleStore) : Outcome BrittleStore α :=
  match store.fault? key with
  | some error => (.error error, store)
  | none =>
    let (outcome, map) := run store.map
    (outcome, { store with map })

def put (key value : Bytes) : BrittleStore → Outcome BrittleStore Bool :=
  guarded key (MapStore.perform (.put key value))

/-- A batch is put item by item, each under its own key. -/
def perform (operation : Operation) (store : BrittleStore) :
    Outcome BrittleStore operation.Answer :=
  match operation with
  | .put key value => store.put key value
  | .putMulti keys values => putBatch put keys values store
  | .get key => store.guarded key (MapStore.perform (.get key))
  | .contains key => store.guarded key (MapStore.perform (.contains key))
  | .erase key => store.guarded key (MapStore.perform (.erase key))
  | .listKeys start count stem =>
    store.guarded start (MapStore.perform (.listKeys start count stem))
  | .listPairs start count stem =>
    store.guarded start (MapStore.perform (.listPairs start count stem))
  | .keyRange lower upper limit =>
    store.guarded lower (MapStore.perform (.keyRange lower upper limit))
  | .pairRange lower upper limit =>
    store.guarded lower (MapStore.perform (.pairRange lower upper limit))
  | .sync => store.guarded [] (MapStore.perform .sync)

instance : Engine BrittleStore where
  openDatabase name store :=
    store.guarded (Bytes.ofText name) fun map => Engine.openDatabase name map
  installOrder order store := store.guarded [] fun map => Engine.installOrder order map
  perform := perform

end BrittleStore

end KeyDepot
