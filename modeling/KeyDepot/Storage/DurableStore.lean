import KeyDepot.Storage.ByteMap
import KeyDepot.Storage.Engine
import KeyDepot.Storage.Options

namespace KeyDepot

/-- The databases that lie in a data directory, each under its name. -/
abbrev Shelf (τ : Type) := List (String × τ)

variable {τ : Type}

namespace Shelf

/-- The map of a database; a name never used before has a blank one. -/
def find [ByteMap τ] (shelf : Shelf τ) (name : String) : τ :=
  (shelf.lookup name).getD ByteMap.blank

/-- The shelf with this map under the name. -/
def store (shelf : Shelf τ) (name : String) (map : τ) : Shelf τ :=
  (name, map) :: shelf.filter fun item => item.1 != name

end Shelf

/-- A database that is open: its name and its map. -/
structure OpenDatabase (τ : Type) where
  name : String
  map : τ
  deriving DecidableEq, Repr, Inhabited

structure DurableStore (τ : Type) where
  options : StoreOptions
  /-- The databases that are not open here. -/
  shelf : Shelf τ := []
  current : Option (OpenDatabase τ) := none
  deriving Inhabited

namespace DurableStore

/-- The shelf with the open database put back. -/
def leave (store : DurableStore τ) : Shelf τ :=
  match store.current with
  | none => store.shelf
  | some database =>
    if store.options.inMemory then store.shelf
    else store.shelf.store database.name database.map

variable [ByteMap τ]

def openDatabase (name : String) (store : DurableStore τ) : DurableStore τ :=
  let shelf := store.leave
  let map := if store.options.inMemory then ByteMap.blank else shelf.find name
  { store with shelf, current := some ⟨name, map⟩ }

/-- Runs an operation on the map of the open database. -/
def withMap {α : Type} (run : τ → α × τ) (store : DurableStore τ) : Outcome (DurableStore τ) α :=
  match store.current with
  | none => (.error (.engine "sled database is not open"), store)
  | some database =>
    let (answer, map) := run database.map
    (.ok answer, { store with current := some { database with map } })

/-- Reads from the map of the open database. -/
def reading {α : Type} (read : τ → α) : DurableStore τ → Outcome (DurableStore τ) α :=
  withMap fun map => (read map, map)

/-- A put that must not touch a key that is there swaps only the absent value. -/
def putValue (options : StoreOptions) (key value : Bytes) (map : τ) : Bool × τ :=
  if options.rejectsExisting then ByteMap.compareAndSwap key none (some value) map
  else (true, ByteMap.insert key value map)

def put (key value : Bytes) (store : DurableStore τ) : Outcome (DurableStore τ) Bool :=
  store.withMap (putValue store.options key value)

def eraseKey (key : Bytes) (map : τ) : Bool × τ :=
  let (old, map) := ByteMap.remove key map
  (old.isSome, map)

/-- The entries strictly after `start`; the empty key stands before all. -/
def after (start : Bytes) (map : τ) : Entries :=
  if start.isEmpty then ByteMap.range none none map else ByteMap.range (some start) none map

/-- The first `count` entries after `start` whose keys begin with `stem`. -/
def page (start : Bytes) (count : Nat) (stem : Bytes) (map : τ) : Entries :=
  PrefixScan.select Entry.key ⟨stem, count⟩ (after start map)

/-- The first `limit` entries in `(lower, upper]`, all of them when `limit` is zero; none unless
`lower` comes before `upper`. -/
def range (lower upper : Bytes) (limit : Nat) (map : τ) : Entries :=
  if Bytes.order lower upper = .lt then
    let found := ByteMap.range (some lower) (some upper) map
    if limit = 0 then found else found.take limit
  else []

def perform (operation : Operation) (store : DurableStore τ) :
    Outcome (DurableStore τ) operation.Answer :=
  match operation with
  | .put key value => store.put key value
  | .putMulti keys values => putBatch put keys values store
  | .get key => store.reading (ByteMap.get key)
  | .contains key => store.reading (ByteMap.contains key)
  | .erase key => store.withMap (eraseKey key)
  | .listKeys start count stem => store.reading fun map => (page start count stem map).map Entry.key
  | .listPairs start count stem => store.reading (page start count stem)
  | .keyRange lower upper limit =>
    store.reading fun map => (range lower upper limit map).map Entry.key
  | .pairRange lower upper limit => store.reading (range lower upper limit)
  | .sync => store.reading fun _ => ()

instance : Engine (DurableStore τ) where
  openDatabase name store := (.ok (), store.openDatabase name)
  installOrder order store := (.error (.unsupported (.keyOrder order.name)), store)
  perform := perform

end DurableStore

end KeyDepot
