import KeyDepot.Wire.Codec

namespace KeyDepot.Wire

open Codec

def databaseId : Codec DatabaseId :=
  word64.via DatabaseId.mk DatabaseId.number

def access : Codec Access :=
  choice [.readOnly, .writeOnly, .readWrite] fun
    | .readOnly => 0
    | .writeOnly => 1
    | .readWrite => 2

def status : Codec Status :=
  choice Status.all Status.code

def descriptor : Codec Descriptor :=
  (word64.pair (access.pair (list word64))).via
    (fun (region, access, sizes) => ⟨region, access, sizes⟩)
    (fun value => (value.region, value.access, value.sizes))

def segmentWrite : Codec SegmentWrite :=
  (word32.pair bytes).via (fun (index, data) => ⟨index, data⟩)
    (fun value => (value.index, value.data))

/-- The place of an alternative in 32 bits. -/
def variant (place : Nat) : Bytes :=
  Bytes.little 4 place

theorem length_variant (place : Nat) : (variant place).length = 4 :=
  Bytes.length_little 4 place

def putFields : Codec (DatabaseId × Bytes × Bytes) := databaseId.pair (bytes.pair bytes)

def bulkFields : Codec (DatabaseId × Bytes × Descriptor) := databaseId.pair (bytes.pair descriptor)

def getFields : Codec (DatabaseId × Bytes × UInt64) := databaseId.pair (bytes.pair word64)

def keyFields : Codec (DatabaseId × Bytes) := databaseId.pair bytes

def listKeysFields : Codec (DatabaseId × Bytes × Bytes × UInt64 × Descriptor × Descriptor) :=
  databaseId.pair (bytes.pair (bytes.pair (word64.pair (descriptor.pair descriptor))))

def listPairsFields :
    Codec (DatabaseId × Bytes × Bytes × UInt64 × Descriptor × Descriptor × Descriptor ×
      Descriptor) :=
  databaseId.pair (bytes.pair (bytes.pair (word64.pair
    (descriptor.pair (descriptor.pair (descriptor.pair descriptor))))))

def request : Codec Request where
  write
    | .openName name => variant 0 ++ text.write name
    | .put db key value => variant 1 ++ putFields.write (db, key, value)
    | .bulkPut db key value => variant 2 ++ bulkFields.write (db, key, value)
    | .get db key maxSize => variant 3 ++ getFields.write (db, key, maxSize)
    | .bulkGet db key buffer => variant 4 ++ bulkFields.write (db, key, buffer)
    | .erase db key => variant 5 ++ keyFields.write (db, key)
    | .length db key => variant 6 ++ keyFields.write (db, key)
    | .listKeys db start stem maxKeys keys keySizes =>
      variant 7 ++ listKeysFields.write (db, start, stem, maxKeys, keys, keySizes)
    | .listPairs db start stem maxKeys keys keySizes values valueSizes =>
      variant 8 ++
        listPairsFields.write (db, start, stem, maxKeys, keys, keySizes, values, valueSizes)
  size
    | .openName name => 4 + text.size name
    | .put db key value => 4 + putFields.size (db, key, value)
    | .bulkPut db key value => 4 + bulkFields.size (db, key, value)
    | .get db key maxSize => 4 + getFields.size (db, key, maxSize)
    | .bulkGet db key buffer => 4 + bulkFields.size (db, key, buffer)
    | .erase db key => 4 + keyFields.size (db, key)
    | .length db key => 4 + keyFields.size (db, key)
    | .listKeys db start stem maxKeys keys keySizes =>
      4 + listKeysFields.size (db, start, stem, maxKeys, keys, keySizes)
    | .listPairs db start stem maxKeys keys keySizes values valueSizes =>
      4 + listPairsFields.size (db, start, stem, maxKeys, keys, keySizes, values, valueSizes)
  length_write request := by
    cases request <;> simp only [List.length_append, length_variant, Codec.length_write]
  read input :=
    match readVariant 9 input with
    | .error fault => .error fault
    | .ok (0, rest) => text.readAs .openName rest
    | .ok (1, rest) => putFields.readAs (fun (db, key, value) => .put db key value) rest
    | .ok (2, rest) => bulkFields.readAs (fun (db, key, value) => .bulkPut db key value) rest
    | .ok (3, rest) => getFields.readAs (fun (db, key, maxSize) => .get db key maxSize) rest
    | .ok (4, rest) => bulkFields.readAs (fun (db, key, buffer) => .bulkGet db key buffer) rest
    | .ok (5, rest) => keyFields.readAs (fun (db, key) => .erase db key) rest
    | .ok (6, rest) => keyFields.readAs (fun (db, key) => .length db key) rest
    | .ok (7, rest) =>
      listKeysFields.readAs (fun (db, start, stem, maxKeys, keys, keySizes) =>
        .listKeys db start stem maxKeys keys keySizes) rest
    | .ok (_, rest) =>
      listPairsFields.readAs
        (fun (db, start, stem, maxKeys, keys, keySizes, values, valueSizes) =>
          .listPairs db start stem maxKeys keys keySizes values valueSizes) rest

def openedFields : Codec (Status × Option DatabaseId) := status.pair (option databaseId)

def gotFields : Codec (Status × Bytes × UInt64) := status.pair (bytes.pair word64)

def sizeFields : Codec (Status × UInt64) := status.pair word64

def reply : Codec Reply where
  write
    | .opened status db => variant 0 ++ openedFields.write (status, db)
    | .ack value => variant 1 ++ status.write value
    | .got status value size => variant 2 ++ gotFields.write (status, value, size)
    | .bulkGot status size => variant 3 ++ sizeFields.write (status, size)
    | .length status size => variant 4 ++ sizeFields.write (status, size)
    | .listed status count => variant 5 ++ sizeFields.write (status, count)
  size
    | .opened status db => 4 + openedFields.size (status, db)
    | .ack value => 4 + status.size value
    | .got status value size => 4 + gotFields.size (status, value, size)
    | .bulkGot status size => 4 + sizeFields.size (status, size)
    | .length status size => 4 + sizeFields.size (status, size)
    | .listed status count => 4 + sizeFields.size (status, count)
  length_write reply := by
    cases reply <;> simp only [List.length_append, length_variant, Codec.length_write]
  read input :=
    match readVariant 6 input with
    | .error fault => .error fault
    | .ok (0, rest) => openedFields.readAs (fun (status, db) => .opened status db) rest
    | .ok (1, rest) => status.readAs .ack rest
    | .ok (2, rest) => gotFields.readAs (fun (status, value, size) => .got status value size) rest
    | .ok (3, rest) => sizeFields.readAs (fun (status, size) => .bulkGot status size) rest
    | .ok (4, rest) => sizeFields.readAs (fun (status, size) => .length status size) rest
    | .ok (_, rest) => sizeFields.readAs (fun (status, count) => .listed status count) rest

/-- A call with the provider it is for. -/
def call : Codec (UInt8 × Request) := word8.pair request

def segments : Codec (List Bytes) := list bytes

def push : Codec (UInt64 × List SegmentWrite) := word64.pair (list segmentWrite)

end KeyDepot.Wire
