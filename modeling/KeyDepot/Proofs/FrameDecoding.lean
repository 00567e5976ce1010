import KeyDepot.Proofs.CanonicalForms
import KeyDepot.Proofs.FrameSize
import KeyDepot.Proofs.PayloadFormat

/-! Frames in bytes that are all there. What is written is read back, and what is read was written:
a payload is accepted exactly when it begins with the payload of the frame it is read as. -/

namespace KeyDepot

open Wire

namespace Frame

theorem decode_form {frame : Frame} (writable : frame.Writable) (rest : Bytes) :
    decode (frame.form ++ rest) = .ok frame := by
  have fits : frame.payloadSize < 2 ^ 64 := Nat.lt_of_le_of_lt writable (by decide)
  simp only [decode, frame.splitExact?_form, readHeader_header writable,
    Bytes.splitExact?_append frame.payload rest frame.length_payload,
    ofPayload_payload frame fits]

/-- A frame is written as the byte of its kind, the length of its payload and the parts of the
payload in their order, and read back from that whatever stands after it. It is refused only for a
payload beyond the limit. -/
theorem decode_of_encode (frame : Frame) :
    (∀ form, frame.encode = .ok form →
      (∃ length, form = frame.kind.byte :: (length ++ Part.forms frame.parts) ∧
        length.length = 4 ∧ Bytes.bigValue length = (Part.forms frame.parts).length) ∧
      ∀ rest, decode (form ++ rest) = .ok frame) ∧
    ∀ error, frame.encode = .error error → maxPayload < (Part.forms frame.parts).length := by
  rw [← frame.payload_eq_forms]
  by_cases writable : frame.Writable
  · rw [encode_of_writable writable]
    refine ⟨?_, fun error refused => (by cases refused)⟩
    intro form written
    obtain rfl := Except.ok.inj written
    have counts : frame.payloadSize < 256 ^ 4 := Nat.lt_of_le_of_lt writable (by decide)
    refine ⟨⟨Bytes.big 4 frame.payloadSize, rfl, Bytes.length_big 4 _, ?_⟩, decode_form writable⟩
    rw [Bytes.bigValue_big 4 _ counts, frame.length_payload]
  · rw [encode_of_not_writable writable]
    refine ⟨fun form written => (by cases written), ?_⟩
    intro error _
    rw [frame.length_payload]
    exact Nat.not_le.mp writable

/-- A listing with a region for each kind of item, and a segment that is one byte too long. -/
theorem decode_of_encode_listing :
    let source : Descriptor := ⟨7, .writeOnly, [16, 0, 3]⟩
    let listing : Frame := .request 2 (.listPairs ⟨9⟩ [1] [] 5 source source source source)
    let large : Frame := .bulkData [Bytes.zeros 67108849]
    (∃ form, listing.encode = .ok form ∧ decode (form ++ [8, 255]) = .ok listing) ∧
    ∃ error, large.encode = .error error ∧ maxPayload < (Part.forms large.parts).length := by
  intro source listing large
  have written : listing.encode = .ok listing.form := encode_of_writable (by decide)
  have beyond : ¬ large.Writable := by
    rw [Writable, payloadSize_bulkData]
    simp [maxPayload]
  have refused := encode_of_not_writable beyond
  exact ⟨⟨listing.form, written, ((decode_of_encode listing).1 _ written).2 _⟩,
    _, refused, (decode_of_encode large).2 _ refused⟩

theorem readPayload_eq_ok {α : Type} {codec : Codec α} (canonical : codec.Canonical)
    {make : α → Frame} {payload : Bytes} {frame : Frame}
    (read : readPayload codec make payload = .ok frame) :
    ∃ value tail, frame = make value ∧ payload = codec.write value ++ tail := by
  simp only [readPayload] at read
  split at read
  · rename_i value tail found
    exact ⟨value, tail, (Except.ok.inj read).symm, canonical _ _ _ found⟩
  · cases read

theorem ofPayload_eq_ok {kind : FrameKind} {payload : Bytes} {frame : Frame}
    (read : ofPayload kind payload = .ok frame) :
    frame.kind = kind ∧ ∃ tail, payload = frame.payload ++ tail ∧
      (kind = .bulkAck ∨ kind = .shutdown → tail = []) := by
  cases kind <;> simp only [ofPayload] at read
  case request =>
    obtain ⟨value, tail, rfl, rfl⟩ := readPayload_eq_ok call_canonical read
    exact ⟨rfl, tail, rfl, by simp⟩
  case reply =>
    obtain ⟨value, tail, rfl, rfl⟩ := readPayload_eq_ok reply_canonical read
    exact ⟨rfl, tail, rfl, by simp⟩
  case bulkPull =>
    obtain ⟨value, tail, rfl, rfl⟩ := readPayload_eq_ok Codec.word64_canonical read
    exact ⟨rfl, tail, rfl, by simp⟩
  case bulkData =>
    obtain ⟨value, tail, rfl, rfl⟩ := readPayload_eq_ok segments_canonical read
    exact ⟨rfl, tail, rfl, by simp⟩
  case bulkPush =>
    obtain ⟨value, tail, rfl, rfl⟩ := readPayload_eq_ok push_canonical read
    exact ⟨rfl, tail, rfl, by simp⟩
  case bulkDenied =>
    obtain ⟨value, tail, rfl, rfl⟩ := readPayload_eq_ok Codec.text_canonical read
    exact ⟨rfl, tail, rfl, by simp⟩
  all_goals
    split at read
    · rename_i empty
      obtain rfl := List.isEmpty_iff.mp empty
      obtain rfl := Except.ok.inj read
      exact ⟨rfl, [], rfl, fun _ => rfl⟩
    · cases read

theorem readHeader_within {header : Bytes} {kind : FrameKind} {size : Nat}
    (read : readHeader header = .ok (kind, size)) : size ≤ maxPayload := by
  simp only [readHeader] at read
  split at read
  · cases read
  · split at read
    · cases read
    · rename_i within
      obtain ⟨-, rfl⟩ := Prod.mk.inj (Except.ok.inj read)
      exact Nat.not_lt.mp within

/-- A frame that was read can be said: its payload is part of one that was within the limit. -/
theorem writable_of_decode {bytes : Bytes} {frame : Frame} (read : decode bytes = .ok frame) :
    frame.Writable := by
  simp only [decode] at read
  split at read
  · cases read
  · split at read
    · cases read
    · rename_i kind size header
      split at read
      · cases read
      · rename_i payload _ split
        obtain ⟨-, width⟩ := Bytes.splitExact?_eq_some split
        obtain ⟨-, tail, same, -⟩ := ofPayload_eq_ok read
        have longer : payload.length = frame.payloadSize + tail.length := by
          rw [same, List.length_append, frame.length_payload]
        have within := readHeader_within header
        rw [Writable]
        omega

/-- What is taken from a stream is what is read from the bytes that are there. -/
theorem decode_of_takeFrame? {received rest : Bytes} {frame : Frame}
    (taken : takeFrame? received = some ⟨.ok frame, rest⟩) : decode received = .ok frame := by
  simp only [takeFrame?] at taken
  split at taken
  · cases taken
  · rename_i header after cut
    split at taken
    · cases Option.some.inj taken
    · rename_i kind size announced
      split at taken
      · cases taken
      · rename_i payload left inner
        simp only [decode, cut, announced, inner]
        exact congrArg Taken.reading (Option.some.inj taken)

/-- Only canonical forms are accepted. A payload is read as a frame exactly when it is the payload
of that frame with any bytes after it, none where the kind has no payload; 64 bits count the bytes
of whatever is read. So a frame that was read is written, and is read back from what is written. -/
theorem payloads_canonical :
    (∀ kind payload frame, ofPayload kind payload = .ok frame →
      frame.kind = kind ∧ ∃ tail, payload = frame.payload ++ tail ∧
        (kind = .bulkAck ∨ kind = .shutdown → tail = [])) ∧
    (∀ (frame : Frame) (tail : Bytes), (frame.payload ++ tail).length < 2 ^ 64 →
      (frame.kind = .bulkAck ∨ frame.kind = .shutdown → tail = []) →
        ofPayload frame.kind (frame.payload ++ tail) = .ok frame) ∧
    ∀ bytes frame, decode bytes = .ok frame →
      frame.payload.length ≤ maxPayload ∧ ∃ form, frame.encode = .ok form ∧
        form.drop headerSize = frame.payload ∧ decode form = .ok frame := by
  refine ⟨fun kind payload frame read => ofPayload_eq_ok read, ?_, ?_⟩
  · intro frame tail counts bare
    have fits : frame.payloadSize < 2 ^ 64 := by
      rw [List.length_append, frame.length_payload] at counts
      omega
    exact frame.ofPayload_append fits bare
  · intro bytes frame read
    have writable := writable_of_decode read
    have again := decode_form writable []
    rw [List.append_nil] at again
    refine ⟨frame.length_payload.trans_le writable, frame.form, encode_of_writable writable, ?_,
      again⟩
    rw [frame.form_eq, List.drop_left' frame.length_header]

/-- A pull with two bytes more than it needs, in a payload and in a frame. -/
theorem payloads_canonical_trailing :
    let pull : Frame := .bulkPull 5
    let payload : Bytes := [5, 0, 0, 0, 0, 0, 0, 0, 9, 9]
    (ofPayload .bulkPull payload = .ok pull ∧
      ∃ tail, payload = pull.payload ++ tail) ∧
    (pull.payload ++ [9, 9]).length < 2 ^ 64 ∧
      ofPayload pull.kind (pull.payload ++ [9, 9]) = .ok pull ∧
    decode ([3, 0, 0, 0, 10] ++ payload) = .ok pull ∧
      ∃ form, pull.encode = .ok form ∧ form.drop headerSize = pull.payload ∧
        decode form = .ok pull := by
  intro pull payload
  have accepted : ofPayload .bulkPull payload = .ok pull := by decide
  have read : decode ([3, 0, 0, 0, 10] ++ payload) = .ok pull := by decide
  have counts : (pull.payload ++ [9, 9]).length < 2 ^ 64 := by decide
  obtain ⟨only, all, again⟩ := payloads_canonical
  obtain ⟨-, tail, same, -⟩ := only _ _ _ accepted
  exact ⟨⟨accepted, tail, same⟩, counts, all pull [9, 9] counts (by decide), read,
    (again _ _ read).2⟩

end Frame

end KeyDepot
