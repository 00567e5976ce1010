import KeyDepot.Storage.Entries

namespace KeyDepot

class ByteMap (τ : Type) where
  /-- A map to which nothing was written. -/
  blank : τ
  get (key : Bytes) : τ → Option Bytes
  contains (key : Bytes) : τ → Bool
  insert (key value : Bytes) : τ → τ
  /-- Sets what is held for a key from `old` to `new`, and tells whether it was `old`. -/
  compareAndSwap (key : Bytes) (old new : Option Bytes) : τ → Bool × τ
  /-- Takes a key out, with what was held for it. -/
  remove (key : Bytes) : τ → Option Bytes × τ
  /-- In bytewise order of their keys, the entries after `lower` and not after `upper`. -/
  range (lower upper : Option Bytes) : τ → List Entry

namespace Entries

def get (key : Bytes) (entries : Entries) : Option Bytes :=
  (entries.find? Bytes.order key).map Entry.value

/-- The entries with this value, or none, for the key. -/
def set (key : Bytes) (value : Option Bytes) (entries : Entries) : Entries :=
  match value with
  | some value => entries.insert Bytes.order key value
  | none => entries.erase Bytes.order key

/-- Whether a key comes after `lower` and not after `upper`. -/
def inside (lower upper : Option Bytes) (key : Bytes) : Bool :=
  lower.all (fun lower => Bytes.order lower key == .lt) &&
    upper.all fun upper => !(Bytes.order upper key == .lt)

instance : ByteMap Entries where
  blank := []
  get := get
  contains key entries := (entries.get key).isSome
  insert key value := Entries.insert Bytes.order key value
  compareAndSwap key old new entries :=
    if entries.get key = old then (true, entries.set key new) else (false, entries)
  remove key entries := (entries.get key, entries.erase Bytes.order key)
  range lower upper entries := entries.filter fun entry => inside lower upper entry.key

end Entries

end KeyDepot
