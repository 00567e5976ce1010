import KeyDepot.Message.Transfer

namespace KeyDepot.Bulk

/-- Writes that put the data into consecutive segments of these sizes, the first having number
`index`. -/
def scatterFrom (index : Nat) (data : Bytes) : List UInt64 → List SegmentWrite
  | [] => []
  | size :: rest =>
    if data.isEmpty then []
    else
      ⟨UInt32.ofNat index, data.take size.toNat⟩ ::
        scatterFrom (index + 1) (data.drop size.toNat) rest

/-- Writes that put the data into consecutive segments of these sizes. -/
def scatter (data : Bytes) (sizes : List UInt64) : List SegmentWrite :=
  scatterFrom 0 data sizes

/-- Writes that put item `i` into segment `i`. -/
def slotWrites (items : List Bytes) : List SegmentWrite :=
  items.mapIdx fun index item => ⟨UInt32.ofNat index, item⟩

/-- The width of a packed length. -/
def lengthWidth : Nat := 8

/-- The lengths of the items, each in the same number of bytes. -/
def packLengths (items : List Bytes) : Bytes :=
  items.flatMap fun item => Bytes.little lengthWidth item.length

/-- The lengths packed at the front of some bytes, at most `count` and only whole ones. -/
def unpackLengths : (count : Nat) → Bytes → List Nat
  | 0, _ => []
  | count + 1, packed =>
    match packed.splitExact? lengthWidth with
    | some (length, rest) => length.littleValue :: unpackLengths count rest
    | none => []

/-- Whether an item is longer than its segment. -/
def exceedsSlots (items : List Bytes) (sizes : List UInt64) : Bool :=
  (items.zip sizes).any fun (item, size) => size.toNat < item.length

end KeyDepot.Bulk
