import KeyDepot.Panic

namespace KeyDepot

/-- How the remote side may touch an exposed region. -/
inductive Access where
  | readOnly
  | writeOnly
  | readWrite
  deriving DecidableEq, Repr, Inhabited

namespace Access

/-- The remote side may pull from the region. -/
def readable : Access → Bool
  | readOnly | readWrite => true
  | writeOnly => false

/-- The remote side may push into the region. -/
def writable : Access → Bool
  | writeOnly | readWrite => true
  | readOnly => false

end Access

/-- What a caller tells about a region: its number, the access it grants, and the capacity of each
segment in order. -/
structure Descriptor where
  region : UInt64
  access : Access
  sizes : List UInt64
  deriving DecidableEq, Repr, Inhabited

namespace Descriptor

/-- The capacity of all segments together, as a number of 64 bits. -/
def total (build : Build) (descriptor : Descriptor) : Except Panic UInt64 :=
  descriptor.sizes.foldlM build.add 0

/-- The number of segments. -/
def count (descriptor : Descriptor) : Nat :=
  descriptor.sizes.length

end Descriptor

/-- Data for the beginning of one segment of a region. -/
structure SegmentWrite where
  index : UInt32
  data : Bytes
  deriving DecidableEq, Repr, Inhabited

/-- The two ways of travelling. -/
inductive TransferMode where
  | inside
  | bulk
  deriving DecidableEq, Repr, Inhabited

namespace TransferMode

/-- Sizes are numbers of 64 bits; a sum beyond them stays at the greatest. -/
def maxSize : Nat := UInt64.size - 1

/-- The bytes counted for a message beside its key and value: two numbers of 64 bits. -/
def overhead : Nat := 16

/-- The greatest message that travels inside, unless configured otherwise. -/
def usualThreshold : Nat := 4000

/-- What a message with a key and a value of these lengths counts as. -/
def messageSize (keyLength valueLength : Nat) : Nat :=
  min (min (keyLength + valueLength) maxSize + overhead) maxSize

/-- The way a payload travels; `valueLength` is the length of the value to store, or the greatest
length accepted of a value to fetch. -/
def select (keyLength valueLength threshold : Nat) : TransferMode :=
  if messageSize keyLength valueLength ≤ threshold then inside else bulk

end TransferMode

end KeyDepot
