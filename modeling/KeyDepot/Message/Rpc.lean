namespace KeyDepot

inductive Rpc where
  | openName
  | put
  | bulkPut
  | get
  | bulkGet
  | erase
  | length
  | listKeys
  | listPairs
  deriving DecidableEq, Repr, Inhabited

namespace Rpc

/-- Every kind of call, in the order in which counters are reported. -/
def all : List Rpc :=
  [openName, put, bulkPut, get, bulkGet, erase, length, listKeys, listPairs]

/-- The word shown to users. -/
def label : Rpc → String
  | openName => "open"
  | put => "put"
  | bulkPut => "bulk_put"
  | get => "get"
  | bulkGet => "bulk_get"
  | erase => "erase"
  | length => "length"
  | listKeys => "list_keys"
  | listPairs => "list_keyvals"

end Rpc

end KeyDepot
