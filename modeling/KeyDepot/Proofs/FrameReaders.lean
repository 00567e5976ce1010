import KeyDepot.Proofs.CutStreams

/-! The two readers of frames: of bytes that are all there, and of a stream. Some bytes begin in one
of four ways, and in each of them both readers find the same, but that a stream too short for its
frame has ended early. -/

namespace KeyDepot

/-- The length of the payload that the header at the front announces. -/
def Bytes.announced (bytes : Bytes) : Nat :=
  bigValue ((bytes.take headerSize).drop 1)

theorem Bytes.announced_append {header : Bytes} (width : header.length = headerSize)
    (rest : Bytes) : announced (header ++ rest) = bigValue (header.drop 1) := by
  rw [announced, List.take_left' width]

namespace Error

/-- The bytes end before the frame does. -/
def isIncomplete : Error → Bool
  | protocol (.incompleteHeader _) | protocol (.incompletePayload ..) => true
  | _ => false

/-- The header announces no frame. -/
def isOfHeader : Error → Bool
  | protocol (.unknownKind _) | protocol (.payloadTooLarge _) => true
  | _ => false

end Error

/-- The ways in which some bytes begin. -/
inductive Opening : Bytes → Prop
  /-- The header is not all there. -/
  | short {bytes : Bytes} (few : bytes.length < headerSize) : Opening bytes
  | refused {header : Bytes} {error : Error} (width : header.length = headerSize)
      (found : readHeader header = .error error) (rest : Bytes) : Opening (header ++ rest)
  /-- The payload is not all there. -/
  | torn {header rest : Bytes} {kind : FrameKind} {size : Nat} (width : header.length = headerSize)
      (found : readHeader header = .ok (kind, size)) (few : rest.length < size) :
      Opening (header ++ rest)
  | whole {header payload : Bytes} {kind : FrameKind} (width : header.length = headerSize)
      (found : readHeader header = .ok (kind, payload.length)) (rest : Bytes) :
      Opening (header ++ (payload ++ rest))

theorem Bytes.short_or_append (count : Nat) (bytes : Bytes) :
    bytes.length < count ∨ ∃ front rest, bytes = front ++ rest ∧ front.length = count := by
  rcases Nat.lt_or_ge bytes.length count with few | enough
  · exact .inl few
  · exact .inr ⟨bytes.take count, bytes.drop count, (List.take_append_drop count bytes).symm,
      List.length_take_of_le enough⟩

theorem opening (bytes : Bytes) : Opening bytes := by
  rcases bytes.short_or_append headerSize with few | ⟨header, rest, rfl, width⟩
  · exact .short few
  · cases found : readHeader header with
    | error error => exact .refused width found rest
    | ok announced =>
      obtain ⟨kind, size⟩ := announced
      rcases rest.short_or_append size with few | ⟨payload, rest, rfl, rfl⟩
      · exact .torn width found few
      · exact .whole width found rest

theorem readHeader_eq_ok {header : Bytes} {kind : FrameKind} {size : Nat}
    (found : readHeader header = .ok (kind, size)) : size = Bytes.bigValue (header.drop 1) := by
  simp only [readHeader] at found
  split at found
  · cases found
  · split at found
    · cases found
    · exact (Prod.mk.inj (Except.ok.inj found)).2.symm

theorem readHeader_eq_error {header : Bytes} {error : Error}
    (found : readHeader header = .error error) :
    error.isOfHeader = true ∧ error.isIncomplete = false := by
  simp only [readHeader, FrameKind.ofByte] at found
  split at found
  · rename_i unknown
    split at unknown
    · cases unknown
    · obtain rfl := (Except.error.inj unknown).trans (Except.error.inj found)
      exact ⟨rfl, rfl⟩
  · split at found
    · obtain rfl := Except.error.inj found
      exact ⟨rfl, rfl⟩
    · cases found

theorem Frame.readPayload_eq_error {α : Type} {codec : Wire.Codec α} {make : α → Frame}
    {payload : Bytes} {error : Error} (found : readPayload codec make payload = .error error) :
    ∃ fault, error = .serialization fault := by
  simp only [readPayload] at found
  split at found
  · cases found
  · exact ⟨_, (Except.error.inj found).symm⟩

/-- What is wrong with a payload is none of the faults of a header, and nothing is missing. -/
theorem Frame.ofPayload_eq_error {kind : FrameKind} {payload : Bytes} {error : Error}
    (found : ofPayload kind payload = .error error) :
    error.isOfHeader = false ∧ error.isIncomplete = false := by
  cases kind <;> simp only [ofPayload] at found
  case bulkAck | shutdown =>
    split at found
    · cases found
    · obtain rfl := Except.error.inj found
      exact ⟨rfl, rfl⟩
  all_goals
    obtain ⟨fault, rfl⟩ := readPayload_eq_error found
    exact ⟨rfl, rfl⟩

/-- The stream was read so far that this many bytes of it are consumed. -/
def Taken.Consumed (count : Nat) (stream : Bytes) (taken : Taken) : Prop :=
  ∃ front, stream = front ++ taken.rest ∧ front.length = count

/-- Bytes that are all there and a stream that ends after them are read alike. The same frames are
read, with what is beyond the announced length left on the stream; where the bytes are incomplete
the stream ends early; and every other fault is the same, found when the header is read or when the
payload is. -/
theorem readers_agree (bytes : Bytes) :
    let taken := readFrame bytes
    let frameSize := headerSize + bytes.announced
    (∀ frame, taken.reading = .ok frame ↔ Frame.decode bytes = .ok frame) ∧
    (∀ frame, Frame.decode bytes = .ok frame → taken.Consumed frameSize bytes) ∧
    ∀ error, Frame.decode bytes = .error error →
      (error.isIncomplete = true → taken.reading = .error (.stream .earlyEnd)) ∧
      (error.isIncomplete = false → taken.reading = .error error ∧
        taken.Consumed (if error.isOfHeader then headerSize else frameSize) bytes) := by
  intro taken frameSize
  cases opening bytes with
  | short few =>
    have decoded : Frame.decode bytes = .error (.protocol (.incompleteHeader bytes.length)) := by
      simp only [Frame.decode, Bytes.splitExact?_eq_none few]
    have read : taken = ⟨.error (.stream .earlyEnd), []⟩ := by
      simp only [taken, readFrame, takeFrame?, Bytes.splitExact?_eq_none few, Option.getD_none]
    rw [decoded, read]
    refine ⟨by simp, ?_, ?_⟩
    · rintro frame ⟨⟩
    · rintro _ ⟨⟩
      exact ⟨fun _ => rfl, by rintro ⟨⟩⟩
  | @refused header error width found rest =>
    have cut := Bytes.splitExact?_append header rest width
    have decoded : Frame.decode (header ++ rest) = .error error := by
      simp only [Frame.decode, cut, found]
    have read : taken = ⟨.error error, rest⟩ := by
      simp only [taken, readFrame, takeFrame?, cut, found, Option.getD_some]
    obtain ⟨ofHeader, complete⟩ := readHeader_eq_error found
    rw [decoded, read]
    refine ⟨by simp, ?_, ?_⟩
    · rintro frame ⟨⟩
    · rintro _ ⟨⟩
      rw [ofHeader, complete]
      exact ⟨by rintro ⟨⟩, fun _ => ⟨rfl, header, rfl, width⟩⟩
  | @torn header rest kind size width found few =>
    have cut := Bytes.splitExact?_append header rest width
    have decoded : Frame.decode (header ++ rest) =
        .error (.protocol (.incompletePayload (headerSize + size) (header ++ rest).length)) := by
      simp only [Frame.decode, cut, found, Bytes.splitExact?_eq_none few]
    have read : taken = ⟨.error (.stream .earlyEnd), []⟩ := by
      simp only [taken, readFrame, takeFrame?, cut, found, Bytes.splitExact?_eq_none few,
        Option.getD_none]
    rw [decoded, read]
    refine ⟨by simp, ?_, ?_⟩
    · rintro frame ⟨⟩
    · rintro _ ⟨⟩
      exact ⟨fun _ => rfl, by rintro ⟨⟩⟩
  | @whole header payload kind width found rest =>
    have cut := Bytes.splitExact?_append header (payload ++ rest) width
    have inner := Bytes.splitExact?_append payload rest rfl
    have decoded : Frame.decode (header ++ (payload ++ rest)) = Frame.ofPayload kind payload := by
      simp only [Frame.decode, cut, found, inner]
    have read : taken = ⟨Frame.ofPayload kind payload, rest⟩ := by
      simp only [taken, readFrame, takeFrame?, cut, found, inner, Option.getD_some]
    have consumed : taken.Consumed frameSize (header ++ (payload ++ rest)) := by
      refine ⟨header ++ payload, by rw [read, List.append_assoc], ?_⟩
      rw [List.length_append, width, readHeader_eq_ok found, ← Bytes.announced_append width]
    rw [decoded]
    refine ⟨by simp [read], fun _ _ => consumed, ?_⟩
    intro error failed
    obtain ⟨ofPayload, complete⟩ := Frame.ofPayload_eq_error failed
    rw [ofPayload, complete]
    exact ⟨by rintro ⟨⟩, fun _ => ⟨by rw [read, failed], consumed⟩⟩

/-- An unknown kind is told before a length that is too large. -/
example : Frame.decode [9, 255, 255, 255, 255, 1] = .error (.protocol (.unknownKind 9)) ∧
    readFrame [9, 255, 255, 255, 255, 1] = ⟨.error (.protocol (.unknownKind 9)), [1]⟩ :=
  ⟨rfl, rfl⟩

end KeyDepot
