import KeyDepot.Proofs.FrameReading

namespace KeyDepot.Frame

open Wire Codec

theorem payloadSize_put (target : UInt8) (id : DatabaseId) (key value : Bytes) :
    (request target (.put id key value)).payloadSize = 29 + key.length + value.length := by
  simp only [payloadSize, call, Wire.request, putFields, databaseId, Codec.pair, Codec.via, word8,
    word64, bytes]
  omega

theorem payloadSize_get (target : UInt8) (id : DatabaseId) (key : Bytes) (maxSize : UInt64) :
    (request target (.get id key maxSize)).payloadSize = 29 + key.length := by
  simp only [payloadSize, call, Wire.request, getFields, databaseId, Codec.pair, Codec.via, word8,
    word64, bytes]
  omega

theorem size_descriptor (region : Descriptor) : descriptor.size region = 20 + 8 * region.count := by
  simp only [descriptor, access, Codec.choice, Codec.list, Codec.pair, Codec.via, word64,
    Descriptor.count, List.map_const', ← List.sum_eq_foldr, List.sum_replicate_nat]
  omega

theorem payloadSize_bulkPut (target : UInt8) (id : DatabaseId) (key : Bytes)
    (source : Descriptor) : (request target (.bulkPut id key source)).payloadSize =
      41 + key.length + 8 * source.count := by
  simp only [payloadSize, call, Wire.request, bulkFields, databaseId, Codec.pair, Codec.via, word8,
    word64, bytes, size_descriptor]
  omega

theorem payloadSize_bulkGet (target : UInt8) (id : DatabaseId) (key : Bytes)
    (buffer : Descriptor) : (request target (.bulkGet id key buffer)).payloadSize =
      41 + key.length + 8 * buffer.count := by
  simp only [payloadSize, call, Wire.request, bulkFields, databaseId, Codec.pair, Codec.via, word8,
    word64, bytes, size_descriptor]
  omega

theorem payloadSize_listKeys (target : UInt8) (id : DatabaseId) (start stem : Bytes)
    (maxKeys : UInt64) (keys keySizes : Descriptor) :
    (request target (.listKeys id start stem maxKeys keys keySizes)).payloadSize =
      77 + start.length + stem.length + 8 * keys.count + 8 * keySizes.count := by
  simp only [payloadSize, call, Wire.request, listKeysFields, databaseId, Codec.pair, Codec.via,
    word8, word64, bytes, size_descriptor]
  omega

theorem payloadSize_listPairs (target : UInt8) (id : DatabaseId) (start stem : Bytes)
    (maxKeys : UInt64) (keys keySizes values valueSizes : Descriptor) :
    (request target (.listPairs id start stem maxKeys keys keySizes values
        valueSizes)).payloadSize =
      117 + start.length + stem.length + 8 * keys.count + 8 * keySizes.count +
        8 * values.count + 8 * valueSizes.count := by
  simp only [payloadSize, call, Wire.request, listPairsFields, databaseId, Codec.pair, Codec.via,
    word8, word64, bytes, size_descriptor]
  omega

theorem payloadSize_bulkData (segments : List Bytes) :
    (bulkData segments).payloadSize =
      8 + (segments.map fun segment => 8 + segment.length).sum := rfl

theorem payloadSize_bulkPush (region : UInt64) (writes : List SegmentWrite) :
    (bulkPush region writes).payloadSize =
      16 + (writes.map fun write => 12 + write.data.length).sum := by
  have same : segmentWrite.size = fun write => 12 + write.data.length := by
    funext write
    simp only [segmentWrite, Codec.via, Codec.pair, word32, bytes]
    omega
  simp only [payloadSize, push, Codec.pair, Codec.list, word64, same, ← List.sum_eq_foldr]
  omega

theorem payloadSize_got (status : Status) (value : Bytes) (size : UInt64) :
    (reply (.got status value size)).payloadSize = 24 + value.length := by
  simp only [payloadSize, Wire.reply, gotFields, Wire.status, Codec.choice, Codec.pair, word64,
    bytes]
  omega

end KeyDepot.Frame
