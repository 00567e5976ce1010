import KeyDepot.Wire.Message

/-!
Frames on a stream: one byte for the kind, the length of the payload in four bytes, most significant
first, and the payload. A frame ends where its header says, so a stream falls into frames in one way
only, wherever it is cut.
-/

namespace KeyDepot

open Wire

namespace Frame

/-- What stands after the header. -/
def payload : Frame → Bytes
  | request target body => call.write (target, body)
  | reply value => Wire.reply.write value
  | bulkPull region => Codec.word64.write region
  | bulkData segments => Wire.segments.write segments
  | bulkPush region writes => push.write (region, writes)
  | bulkDenied reason => Codec.text.write reason
  | bulkAck | shutdown => []

/-- The length of the payload, known without writing it. -/
def payloadSize : Frame → Nat
  | request target body => call.size (target, body)
  | reply value => Wire.reply.size value
  | bulkPull region => Codec.word64.size region
  | bulkData segments => Wire.segments.size segments
  | bulkPush region writes => push.size (region, writes)
  | bulkDenied reason => Codec.text.size reason
  | bulkAck | shutdown => 0

theorem length_payload : (frame : Frame) → frame.payload.length = frame.payloadSize
  | request .. => call.length_write _
  | reply _ => Wire.reply.length_write _
  | bulkPull _ => Codec.word64.length_write _
  | bulkData _ => Wire.segments.length_write _
  | bulkPush .. => push.length_write _
  | bulkDenied _ => Codec.text.length_write _
  | bulkAck | shutdown => rfl

/-- The bytes of a frame; a payload beyond the limit is refused before it is written. -/
def encode (frame : Frame) : Except Error Bytes :=
  let size := frame.payloadSize
  if maxPayload < size then .error (.protocol (.payloadTooLarge size))
  else .ok (frame.kind.byte :: (Bytes.big 4 size ++ frame.payload))

def readPayload {α : Type} (codec : Codec α) (make : α → Frame) (payload : Bytes) :
    Except Error Frame :=
  match codec.read payload with
  | .ok (value, _) => .ok (make value)
  | .error fault => .error (.serialization fault)

/-- The frame of a kind with the given payload. Bytes after the value are ignored, but kinds without
a value take none. -/
def ofPayload (kind : FrameKind) (payload : Bytes) : Except Error Frame :=
  match kind with
  | .request => readPayload call (fun (target, body) => .request target body) payload
  | .reply => readPayload Wire.reply .reply payload
  | .bulkPull => readPayload Codec.word64 .bulkPull payload
  | .bulkData => readPayload Wire.segments .bulkData payload
  | .bulkPush => readPayload push (fun (region, writes) => .bulkPush region writes) payload
  | .bulkDenied => readPayload Codec.text .bulkDenied payload
  | .bulkAck =>
    if payload.isEmpty then .ok .bulkAck
    else .error (.protocol (.payloadNotEmpty .bulkAck payload.length))
  | .shutdown =>
    if payload.isEmpty then .ok .shutdown
    else .error (.protocol (.payloadNotEmpty .shutdown payload.length))

end Frame

/-- The kind of frame that a byte opens. -/
def FrameKind.ofByte (byte : UInt8) : Except Error FrameKind :=
  match FrameKind.ofByte? byte with
  | some kind => .ok kind
  | none => .error (.protocol (.unknownKind byte))

/-- What a header announces: the kind of the frame and the length of its payload. -/
def readHeader (header : Bytes) : Except Error (FrameKind × Nat) :=
  match FrameKind.ofByte (header.headD 0) with
  | .error error => .error error
  | .ok kind =>
    let size := Bytes.bigValue (header.drop 1)
    if maxPayload < size then .error (.protocol (.payloadTooLarge size)) else .ok (kind, size)

/-- The frame at the front of bytes that are all there. -/
def Frame.decode (bytes : Bytes) : Except Error Frame :=
  match bytes.splitExact? headerSize with
  | none => .error (.protocol (.incompleteHeader bytes.length))
  | some (header, rest) =>
    match readHeader header with
    | .error error => .error error
    | .ok (kind, size) =>
      match rest.splitExact? size with
      | none => .error (.protocol (.incompletePayload (headerSize + size) bytes.length))
      | some (payload, _) => Frame.ofPayload kind payload

/-- What reading one frame from a stream gives. -/
abbrev Reading := Except Error Frame

/-- A frame or a failure read from the front of a stream, and the bytes left unread. After a header
that announces no frame only the header is consumed. -/
structure Taken where
  reading : Reading
  rest : Bytes

/-- Reads one frame from the bytes received so far; nothing while the frame is not complete. -/
def takeFrame? (received : Bytes) : Option Taken :=
  match received.splitExact? headerSize with
  | none => none
  | some (header, rest) =>
    match readHeader header with
    | .error error => some ⟨.error error, rest⟩
    | .ok (kind, size) =>
      match rest.splitExact? size with
      | none => none
      | some (payload, rest) => some ⟨Frame.ofPayload kind payload, rest⟩

/-- Reads one frame from a stream that ends after these bytes. -/
def readFrame (stream : Bytes) : Taken :=
  (takeFrame? stream).getD ⟨.error (.stream .earlyEnd), []⟩

theorem Bytes.splitExact?_eq_some {count : Nat} {bytes head rest : Bytes}
    (split : bytes.splitExact? count = some (head, rest)) :
    bytes = head ++ rest ∧ head.length = count := by
  simp only [Bytes.splitExact?] at split
  split at split
  · rename_i enough
    obtain ⟨rfl, rfl⟩ := Prod.mk.inj (Option.some.inj split)
    exact ⟨(List.take_append_drop count bytes).symm, enough⟩
  · cases split

theorem takeFrame?_shorter {received : Bytes} {taken : Taken}
    (found : takeFrame? received = some taken) :
    taken.rest.length + headerSize ≤ received.length := by
  simp only [takeFrame?] at found
  split at found
  · cases found
  · rename_i header rest split
    obtain ⟨same, width⟩ := Bytes.splitExact?_eq_some split
    have total : received.length = headerSize + rest.length := by
      rw [same, List.length_append, width]
    split at found
    · obtain rfl := Option.some.inj found
      simp only
      omega
    · split at found
      · cases found
      · rename_i payload left inner
        obtain ⟨within, _⟩ := Bytes.splitExact?_eq_some inner
        obtain rfl := Option.some.inj found
        simp only
        have : rest.length = payload.length + left.length := by
          rw [within, List.length_append]
        omega

/-- All readings that are complete in the bytes received so far, and the bytes of the next one that
are there already. -/
def takeFrames (received : Bytes) : List Reading × Bytes :=
  match found : takeFrame? received with
  | none => ([], received)
  | some taken =>
    have : taken.rest.length < received.length := by
      have := takeFrame?_shorter found
      simp only [headerSize] at this
      omega
    let (readings, tail) := takeFrames taken.rest
    (taken.reading :: readings, tail)
termination_by received.length

end KeyDepot
