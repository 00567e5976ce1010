import KeyDepot.Storage.Engine

namespace KeyDepot

structure NullStore where
  deriving DecidableEq, Repr, Inhabited

namespace NullStore

def perform (operation : Operation) (store : NullStore) : Outcome NullStore operation.Answer :=
  match operation with
  | .put .. => (.ok true, store)
  | .putMulti keys values => putBatch (fun _ _ store => (.ok true, store)) keys values store
  | .get _ => (.ok none, store)
  | .contains _ => (.ok false, store)
  | .erase _ => (.ok false, store)
  | .listKeys .. => (.ok [], store)
  | .listPairs .. => (.ok [], store)
  | .keyRange .. => (.ok [], store)
  | .pairRange .. => (.ok [], store)
  | .sync => (.ok (), store)

instance : Engine NullStore where
  openDatabase _ store := (.ok (), store)
  installOrder _ store := (.ok (), store)
  perform := perform

end NullStore

end KeyDepot
