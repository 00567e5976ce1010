import KeyDepot.Storage.Engine
import KeyDepot.Storage.Options

namespace KeyDepot

structure MapStore where
  options : StoreOptions
  /-- The name of the database opened last. -/
  name : String := ""
  entries : Entries := []
  order : Option KeyOrder := none

instance : Inhabited MapStore := ⟨{ options := {} }⟩

namespace MapStore

/-- How the store compares keys. -/
def comparison (store : MapStore) : Comparison :=
  match store.order with
  | some order => order.compare
  | none => Bytes.order

def size (store : MapStore) : Nat := store.entries.length

def openDatabase (name : String) (store : MapStore) : MapStore :=
  { store with name, entries := [] }

/-- An order can be installed while there are no keys. -/
def installOrder (order : KeyOrder) (store : MapStore) : Outcome MapStore Unit :=
  if store.entries.isEmpty then (.ok (), { store with order := some order })
  else (.error (.invalidArgument (.orderOnEntries order.name store.size)), store)

def put (key value : Bytes) (store : MapStore) : Bool × MapStore :=
  let present := (store.entries.find? store.comparison key).isSome
  if present && store.options.rejectsExisting then (false, store)
  else (true, { store with entries := store.entries.insert store.comparison key value })

/-- Puts one item after the other. -/
def putEach : List (Bytes × Bytes) → MapStore → List Bool × MapStore
  | [], store => ([], store)
  | (key, value) :: rest, store =>
    let (stored, store) := store.put key value
    let (others, store) := putEach rest store
    (stored :: others, store)

def get (key : Bytes) (store : MapStore) : Option Bytes :=
  (store.entries.find? store.comparison key).map Entry.value

def contains (key : Bytes) (store : MapStore) : Bool :=
  (store.entries.find? store.comparison key).isSome

def erase (key : Bytes) (store : MapStore) : Bool × MapStore :=
  (store.contains key, { store with entries := store.entries.erase store.comparison key })

def page (start : Bytes) (count : Nat) (stem : Bytes) (store : MapStore) : Entries :=
  store.entries.page store.comparison start count stem

def range (lower upper : Bytes) (limit : Nat) (store : MapStore) : Entries :=
  store.entries.range store.comparison lower upper limit

def perform (operation : Operation) (store : MapStore) : Outcome MapStore operation.Answer :=
  match operation with
  | .put key value =>
    let (stored, store) := store.put key value
    (.ok stored, store)
  | .putMulti keys values =>
    if keys.length = values.length then
      let (stored, store) := store.putEach (keys.zip values)
      (.ok stored, store)
    else (.error (.invalidArgument (.batchLengths keys.length values.length)), store)
  | .get key => (.ok (store.get key), store)
  | .contains key => (.ok (store.contains key), store)
  | .erase key =>
    let (erased, store) := store.erase key
    (.ok erased, store)
  | .listKeys start count stem => (.ok ((store.page start count stem).map Entry.key), store)
  | .listPairs start count stem => (.ok (store.page start count stem), store)
  | .keyRange lower upper limit => (.ok ((store.range lower upper limit).map Entry.key), store)
  | .pairRange lower upper limit => (.ok (store.range lower upper limit), store)
  | .sync => (.ok (), store)

instance : Engine MapStore where
  openDatabase name store := (.ok (), store.openDatabase name)
  installOrder := installOrder
  perform := perform

end MapStore

end KeyDepot
