import KeyDepot.Proofs.CodecInverse

namespace KeyDepot

open Wire

namespace Frame

/-- The payload is within the limit, so that the frame can be said. -/
def Writable (frame : Frame) : Prop := frame.payloadSize ≤ maxPayload

instance (frame : Frame) : Decidable frame.Writable :=
  inferInstanceAs (Decidable (frame.payloadSize ≤ maxPayload))

/-- The bytes of a frame: its header and its payload. -/
def form (frame : Frame) : Bytes :=
  frame.kind.byte :: (Bytes.big 4 frame.payloadSize ++ frame.payload)

/-- What stands before the payload. -/
def header (frame : Frame) : Bytes := frame.kind.byte :: Bytes.big 4 frame.payloadSize

theorem form_eq (frame : Frame) : frame.form = frame.header ++ frame.payload := rfl

theorem length_header (frame : Frame) : frame.header.length = headerSize := by
  rw [header, List.length_cons, Bytes.length_big]
  rfl

theorem encode_of_writable {frame : Frame} (writable : frame.Writable) :
    frame.encode = .ok frame.form := by
  simp only [encode, form, if_neg (Nat.not_lt.mpr writable)]

theorem encode_of_not_writable {frame : Frame} (large : ¬ frame.Writable) :
    frame.encode = .error (.protocol (.payloadTooLarge frame.payloadSize)) := by
  simp only [encode, if_pos (Nat.not_le.mp large)]

theorem readPayload_write {α : Type} {codec : Codec α} (inverted : codec.Inverted)
    (make : α → Frame) (value : α) (rest : Bytes) (fits : codec.size value < 2 ^ 64) :
    readPayload codec make (codec.write value ++ rest) = .ok (make value) := by
  simp only [readPayload, inverted value rest fits]

/-- A payload is read back whatever stands after it; only where nothing is due, nothing may
follow. -/
theorem ofPayload_append (frame : Frame) (fits : frame.payloadSize < 2 ^ 64) {rest : Bytes}
    (bare : frame.kind = .bulkAck ∨ frame.kind = .shutdown → rest = []) :
    ofPayload frame.kind (frame.payload ++ rest) = .ok frame := by
  cases frame <;> simp only [payloadSize] at fits <;> simp only [ofPayload, kind, payload]
  case request => exact readPayload_write call_inverted _ _ rest fits
  case reply => exact readPayload_write reply_inverted _ _ rest fits
  case bulkPull => exact readPayload_write Codec.word64_inverted _ _ rest fits
  case bulkData => exact readPayload_write segments_inverted _ _ rest fits
  case bulkPush => exact readPayload_write push_inverted _ _ rest fits
  case bulkDenied => exact readPayload_write Codec.text_inverted _ _ rest fits
  case bulkAck =>
    obtain rfl := bare (.inl rfl)
    rfl
  case shutdown =>
    obtain rfl := bare (.inr rfl)
    rfl

theorem ofPayload_payload (frame : Frame) (fits : frame.payloadSize < 2 ^ 64) :
    ofPayload frame.kind frame.payload = .ok frame := by
  have read : ofPayload frame.kind (frame.payload ++ []) = .ok frame :=
    frame.ofPayload_append fits fun _ => rfl
  rwa [List.append_nil] at read

end Frame

theorem readHeader_header {frame : Frame} (writable : frame.Writable) :
    readHeader frame.header = .ok (frame.kind, frame.payloadSize) := by
  have fits : frame.payloadSize < 256 ^ 4 := Nat.lt_of_le_of_lt writable (by decide)
  simp only [readHeader, Frame.header, FrameKind.ofByte, List.headD_cons, FrameKind.ofByte?_byte,
    List.drop_succ_cons, List.drop_zero, Bytes.bigValue_big 4 _ fits,
    if_neg (Nat.not_lt.mpr writable)]

theorem Frame.splitExact?_form (frame : Frame) (rest : Bytes) :
    (frame.form ++ rest).splitExact? headerSize = some (frame.header, frame.payload ++ rest) := by
  rw [frame.form_eq, List.append_assoc, Bytes.splitExact?_append _ _ frame.length_header]

/-- A frame that can be said is taken from the front of its bytes, and nothing of what follows
them is consumed. -/
theorem takeFrame?_form {frame : Frame} (writable : frame.Writable) (rest : Bytes) :
    takeFrame? (frame.form ++ rest) = some ⟨.ok frame, rest⟩ := by
  have fits : frame.payloadSize < 2 ^ 64 := Nat.lt_of_le_of_lt writable (by decide)
  simp only [takeFrame?, frame.splitExact?_form, readHeader_header writable,
    Bytes.splitExact?_append frame.payload rest frame.length_payload,
    Frame.ofPayload_payload frame fits]

@[simp] theorem takeFrame?_nil : takeFrame? [] = none := rfl

theorem takeFrames_nil : takeFrames [] = ([], []) := by
  rw [takeFrames]
  split
  · rfl
  · rename_i found
    simp at found

theorem takeFrames_form {frame : Frame} (writable : frame.Writable) (rest : Bytes) :
    takeFrames (frame.form ++ rest) = (.ok frame :: (takeFrames rest).1, (takeFrames rest).2) := by
  rw [takeFrames]
  split
  · rename_i found
    rw [takeFrame?_form writable] at found
    cases found
  · rename_i taken found
    rw [takeFrame?_form writable] at found
    obtain rfl := Option.some.inj found
    rfl

/-- Frames said in a row are read in that row, and no byte is left over. -/
theorem takeFrames_forms (frames : List Frame) (writable : ∀ frame ∈ frames, frame.Writable) :
    takeFrames (frames.flatMap Frame.form) = (frames.map .ok, []) := by
  induction frames with
  | nil => exact takeFrames_nil
  | cons frame frames ih =>
    rw [List.flatMap_cons, takeFrames_form (writable frame (by simp)),
      ih fun other member => writable other (by simp [member])]
    rfl

end KeyDepot
