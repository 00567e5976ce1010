import KeyDepot.Wire.Framing

namespace KeyDepot

/-- What messages are made of. -/
inductive Part where
  /-- A number of so many bytes. -/
  | number (width value : Nat)
  | text (value : String)
  | sequence (items : List Part)
  /-- A value that may be missing, and is. -/
  | absent
  | present (item : Part)
  | record (fields : List Part)
  /-- One of several alternatives, by its place among them. -/
  | alternative (place : Nat) (fields : List Part)

mutual

/-- Numbers have a fixed width and come least significant byte first. Lengths are numbers of 64
bits, places of 32 bits, and one byte tells whether a value is there. -/
@[simp] def Part.form : Part → Bytes
  | .number width value => Bytes.little width value
  | .text value => Bytes.little 8 value.utf8ByteSize ++ Bytes.ofText value
  | .sequence items => Bytes.little 8 items.length ++ Part.forms items
  | .absent => Bytes.little 1 0
  | .present item => Bytes.little 1 1 ++ item.form
  | .record fields => Part.forms fields
  | .alternative place fields => Bytes.little 4 place ++ Part.forms fields

/-- Parts are written one after the other. -/
@[simp] def Part.forms : List Part → Bytes
  | [] => []
  | part :: rest => part.form ++ Part.forms rest

end

theorem Part.forms_map {α : Type} (part : α → Part) (values : List α) :
    Part.forms (values.map part) = values.flatMap fun value => (part value).form := by
  induction values with
  | nil => simp [forms]
  | cons value values ih => simp [forms, ih]

/-- Bytes are a sequence of numbers like any other. -/
def Bytes.part (bytes : Bytes) : Part := .sequence (bytes.map fun byte => .number 1 byte.toNat)

def DatabaseId.part (id : DatabaseId) : Part := .number 8 id.number.toNat

def Access.part : Access → Part
  | .readOnly => .alternative 0 []
  | .writeOnly => .alternative 1 []
  | .readWrite => .alternative 2 []

def Status.part (status : Status) : Part := .alternative status.code []

def Descriptor.part (descriptor : Descriptor) : Part :=
  .record [.number 8 descriptor.region.toNat, descriptor.access.part,
    .sequence (descriptor.sizes.map fun size => .number 8 size.toNat)]

def SegmentWrite.part (write : SegmentWrite) : Part :=
  .record [.number 4 write.index.toNat, Bytes.part write.data]

def Request.part : Request → Part
  | .openName name => .alternative 0 [.text name]
  | .put db key value => .alternative 1 [db.part, key.part, value.part]
  | .bulkPut db key value => .alternative 2 [db.part, key.part, value.part]
  | .get db key maxSize => .alternative 3 [db.part, key.part, .number 8 maxSize.toNat]
  | .bulkGet db key buffer => .alternative 4 [db.part, key.part, buffer.part]
  | .erase db key => .alternative 5 [db.part, key.part]
  | .length db key => .alternative 6 [db.part, key.part]
  | .listKeys db start stem maxKeys keys keySizes =>
    .alternative 7
      [db.part, start.part, stem.part, .number 8 maxKeys.toNat, keys.part, keySizes.part]
  | .listPairs db start stem maxKeys keys keySizes values valueSizes =>
    .alternative 8
      [db.part, start.part, stem.part, .number 8 maxKeys.toNat, keys.part, keySizes.part,
        values.part, valueSizes.part]

def Reply.part : Reply → Part
  | .opened status db =>
    .alternative 0 [status.part, db.elim Part.absent fun db => Part.present db.part]
  | .ack status => .alternative 1 [status.part]
  | .got status value size => .alternative 2 [status.part, value.part, .number 8 size.toNat]
  | .bulkGot status size => .alternative 3 [status.part, .number 8 size.toNat]
  | .length status size => .alternative 4 [status.part, .number 8 size.toNat]
  | .listed status count => .alternative 5 [status.part, .number 8 count.toNat]

namespace Frame

/-- The parts of a payload. -/
def parts : Frame → List Part
  | request target body => [.number 1 target.toNat, body.part]
  | reply value => [value.part]
  | bulkPull region => [.number 8 region.toNat]
  | bulkData segments => [.sequence (segments.map Bytes.part)]
  | bulkPush region writes =>
    [.number 8 region.toNat, .sequence (writes.map SegmentWrite.part)]
  | bulkDenied reason => [.text reason]
  | bulkAck | shutdown => []

end Frame

namespace Wire

namespace Codec

variable {α β : Type}

theorem via_write (codec : Codec α) (wrap : α → β) (unwrap : β → α) (value : β) :
    (codec.via wrap unwrap).write value = codec.write (unwrap value) := rfl

theorem pair_write (first : Codec α) (second : Codec β) (value : α × β) :
    (first.pair second).write value = first.write value.1 ++ second.write value.2 := rfl

theorem list_write {codec : Codec α} {part : α → Part}
    (each : ∀ value, codec.write value = (part value).form) (values : List α) :
    (list codec).write values = (Part.sequence (values.map part)).form := by
  simp only [Codec.list, funext each, Part.form, Part.forms_map, List.length_map]

theorem option_write {codec : Codec α} {part : α → Part}
    (each : ∀ value, codec.write value = (part value).form) (value : Option α) :
    (option codec).write value =
      (value.elim Part.absent fun value => Part.present (part value)).form := by
  cases value with
  | none => rfl
  | some value =>
    simp only [Codec.option, each, Option.elim]
    rfl

theorem word8_write (value : UInt8) : word8.write value = (Part.number 1 value.toNat).form := by
  simp [word8, Part.form, Bytes.little]

theorem word32_write (value : UInt32) : word32.write value = (Part.number 4 value.toNat).form := by
  simp only [word32, Part.form]

theorem word64_write (value : UInt64) : word64.write value = (Part.number 8 value.toNat).form := by
  simp only [word64, Part.form]

theorem bytes_write (value : Bytes) : bytes.write value = value.part.form := by
  simp [bytes, Bytes.part, Part.form, Part.forms_map, Bytes.little]

theorem text_write (value : String) : text.write value = (Part.text value).form := by
  simp only [text, Part.form]

end Codec

open Codec

theorem databaseId_write (value : DatabaseId) : databaseId.write value = value.part.form := by
  rw [databaseId, via_write, word64_write, DatabaseId.part]

theorem access_write (value : Access) : access.write value = value.part.form := by
  cases value <;> rfl

theorem status_write (value : Status) : status.write value = value.part.form := by
  simp [status, choice, Status.part, Part.form, Part.forms]

theorem descriptor_write (value : Descriptor) : descriptor.write value = value.part.form := by
  simp only [descriptor, via_write, pair_write, word64_write, access_write,
    list_write word64_write, Descriptor.part, Part.form, Part.forms, List.append_nil]

theorem segmentWrite_write (value : SegmentWrite) :
    segmentWrite.write value = value.part.form := by
  simp only [segmentWrite, via_write, pair_write, word32_write, bytes_write, SegmentWrite.part,
    Part.form, Part.forms, List.append_nil]

theorem request_write (value : Request) : request.write value = value.part.form := by
  unfold request
  cases value <;>
    simp only [variant, putFields, bulkFields, getFields, keyFields, listKeysFields,
      listPairsFields, pair_write, databaseId_write, bytes_write, word64_write, text_write,
      descriptor_write, Request.part, Part.form, Part.forms, List.append_nil]

theorem reply_write (value : Reply) : reply.write value = value.part.form := by
  unfold reply
  cases value <;>
    simp only [variant, openedFields, gotFields, sizeFields, pair_write,
      option_write databaseId_write, bytes_write, word64_write, status_write, Reply.part,
      Part.form, Part.forms, List.append_nil]

end Wire

open Wire Codec in
theorem Frame.payload_eq_forms (frame : Frame) : frame.payload = Part.forms frame.parts := by
  cases frame <;>
    simp only [payload, parts, call, segments, push, pair_write, word8_write, word64_write,
      text_write, request_write, reply_write, list_write bytes_write,
      list_write segmentWrite_write, Part.forms, List.append_nil]

end KeyDepot
