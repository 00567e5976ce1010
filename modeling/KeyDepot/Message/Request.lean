import KeyDepot.Message.Rpc
import KeyDepot.Message.Transfer

namespace KeyDepot

/-- The number under which a provider serves a database. -/
structure DatabaseId where
  number : UInt64
  deriving DecidableEq, Repr, Inhabited

/-- Database 7 is shown as `db-7`. -/
def DatabaseId.label (id : DatabaseId) : String :=
  s!"db-{id.number.toNat}"

inductive Request where
  /-- Which database has this name? -/
  | openName (name : String)
  /-- Store a value carried in the message. -/
  | put (db : DatabaseId) (key value : Bytes)
  /-- Store a value that the provider pulls from a region. -/
  | bulkPut (db : DatabaseId) (key : Bytes) (value : Descriptor)
  /-- Fetch a value of at most `maxSize` bytes in the reply. -/
  | get (db : DatabaseId) (key : Bytes) (maxSize : UInt64)
  /-- Fetch a value that the provider pushes into a region. -/
  | bulkGet (db : DatabaseId) (key : Bytes) (buffer : Descriptor)
  | erase (db : DatabaseId) (key : Bytes)
  /-- How long is the value under the key? -/
  | length (db : DatabaseId) (key : Bytes)
  /-- A page of keys after `start` that begin with `stem`: key `i` goes to segment `i` of `keys`,
  its length as a number of 64 bits to `keySizes`. -/
  | listKeys (db : DatabaseId) (start stem : Bytes) (maxKeys : UInt64)
      (keys keySizes : Descriptor)
  /-- A page of keys with their values. -/
  | listPairs (db : DatabaseId) (start stem : Bytes) (maxKeys : UInt64)
      (keys keySizes values valueSizes : Descriptor)
  deriving DecidableEq, Repr, Inhabited

namespace Request

def rpc : Request → Rpc
  | openName .. => .openName
  | put .. => .put
  | bulkPut .. => .bulkPut
  | get .. => .get
  | bulkGet .. => .bulkGet
  | erase .. => .erase
  | length .. => .length
  | listKeys .. => .listKeys
  | listPairs .. => .listPairs

/-- The database a call names; opening names none. -/
def database? : Request → Option DatabaseId
  | openName _ => none
  | put db .. | bulkPut db .. | get db .. | bulkGet db .. | erase db .. | length db ..
  | listKeys db .. | listPairs db .. => some db

end Request

end KeyDepot
