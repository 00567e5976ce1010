import KeyDepot.Proofs.FrameReading

namespace KeyDepot

theorem takeFrame?_of_readFrame {stream rest : Bytes} {frame : Frame}
    (read : readFrame stream = ⟨.ok frame, rest⟩) :
    takeFrame? stream = some ⟨.ok frame, rest⟩ := by
  cases found : takeFrame? stream with
  | none => simp [readFrame, found] at read
  | some taken =>
    rw [readFrame, found] at read
    rw [← read]
    rfl

/-- Reads frames up to the first failure. -/
def readFrames (stream : Bytes) : List Frame × Error :=
  match read : readFrame stream with
  | ⟨.error error, _⟩ => ([], error)
  | ⟨.ok frame, rest⟩ =>
    have : rest.length < stream.length := by
      have shorter := takeFrame?_shorter (takeFrame?_of_readFrame read)
      simp only [headerSize] at shorter
      omega
    let (frames, error) := readFrames rest
    (frame :: frames, error)
termination_by stream.length

theorem readFrames_cons {stream rest : Bytes} {frame : Frame}
    (read : readFrame stream = ⟨.ok frame, rest⟩) :
    readFrames stream = (frame :: (readFrames rest).1, (readFrames rest).2) := by
  rw [readFrames]
  split <;> rename_i other
  · rw [read] at other
    cases other
  · rw [read] at other
    cases other
    rfl

theorem readFrames_nil {stream rest : Bytes} {error : Error}
    (read : readFrame stream = ⟨.error error, rest⟩) : readFrames stream = ([], error) := by
  rw [readFrames]
  split <;> rename_i other
  · rw [read] at other
    cases other
    rfl
  · rw [read] at other
    cases other

theorem readFrame_form {frame : Frame} (writable : frame.Writable) (rest : Bytes) :
    readFrame (frame.form ++ rest) = ⟨.ok frame, rest⟩ := by
  rw [readFrame, takeFrame?_form writable]
  rfl

theorem Bytes.splitExact?_eq_none {count : Nat} {bytes : Bytes} (few : bytes.length < count) :
    bytes.splitExact? count = none := by
  have short : ¬ (bytes.take count).length = count := by
    rw [List.length_take]
    omega
  simp only [splitExact?, if_neg short]

theorem takeFrame?_cut {frame : Frame} (writable : frame.Writable) {cut : Nat}
    (short : cut < frame.form.length) : takeFrame? (frame.form.take cut) = none := by
  by_cases inside : cut < headerSize
  · -- The header itself is not complete.
    have few : (frame.form.take cut).length < headerSize := by
      rw [List.length_take]
      omega
    simp only [takeFrame?, Bytes.splitExact?_eq_none few]
  · -- The header announces more than there is.
    have parts : frame.form.take cut =
        frame.header ++ frame.payload.take (cut - headerSize) := by
      rw [frame.form_eq, List.take_append, frame.length_header,
        List.take_of_length_le (by rw [frame.length_header]; omega)]
    have few : (frame.payload.take (cut - headerSize)).length < frame.payloadSize := by
      rw [frame.form_eq, List.length_append, frame.length_header, frame.length_payload] at short
      rw [List.length_take, frame.length_payload]
      omega
    simp only [takeFrame?, parts, Bytes.splitExact?_append _ _ frame.length_header,
      readHeader_header writable, Bytes.splitExact?_eq_none few]

theorem readFrames_part {frame : Frame} (writable : frame.Writable) {cut : Nat}
    (short : cut < frame.form.length) :
    readFrames (frame.form.take cut) = ([], .stream .earlyEnd) := by
  have read : readFrame (frame.form.take cut) = ⟨.error (.stream .earlyEnd), []⟩ := by
    rw [readFrame, takeFrame?_cut writable short]
    rfl
  exact readFrames_nil read

/-- Of frames in a row, cut off anywhere, those are read that fit; the last argument says that there
are no more of them. -/
theorem readFrames_forms (frames : List Frame) (writable : ∀ frame ∈ frames, frame.Writable)
    (cut : Nat) :
    ∃ count ≤ frames.length,
      readFrames ((frames.flatMap Frame.form).take cut) =
        (frames.take count, .stream .earlyEnd) ∧
      ((frames.take count).flatMap Frame.form).length ≤ cut ∧
      ∀ more ≤ frames.length, ((frames.take more).flatMap Frame.form).length ≤ cut →
        more ≤ count := by
  induction frames generalizing cut with
  | nil =>
    refine ⟨0, Nat.le_refl 0, ?_, Nat.zero_le cut, fun more few _ => few⟩
    have read : readFrame [] = ⟨.error (.stream .earlyEnd), []⟩ := rfl
    rw [List.flatMap_nil, List.take_nil]
    exact readFrames_nil read
  | cons frame frames ih =>
    have first : frame.Writable := writable frame (List.mem_cons_self ..)
    by_cases fits : frame.form.length ≤ cut
    · obtain ⟨count, few, read, within, most⟩ :=
        ih (fun other member => writable other (List.mem_cons_of_mem _ member))
          (cut - frame.form.length)
      have parts : ((frame :: frames).flatMap Frame.form).take cut =
          frame.form ++ (frames.flatMap Frame.form).take (cut - frame.form.length) := by
        rw [List.flatMap_cons, List.take_append, List.take_of_length_le fits]
      refine ⟨count + 1, Nat.succ_le_succ few, ?_, ?_, ?_⟩
      · rw [parts, readFrames_cons (readFrame_form first _), read]
        rfl
      · rw [List.take_succ_cons, List.flatMap_cons, List.length_append]
        omega
      · intro more room
        cases more with
        | zero => exact fun _ => Nat.zero_le _
        | succ more =>
          rw [List.take_succ_cons, List.flatMap_cons, List.length_append]
          intro whole
          exact Nat.succ_le_succ (most more (Nat.le_of_succ_le_succ room) (by omega))
    · have short : cut < frame.form.length := Nat.not_le.mp fits
      refine ⟨0, Nat.zero_le _, ?_, Nat.zero_le cut, ?_⟩
      · rw [List.flatMap_cons, List.take_append_of_le_length (Nat.le_of_lt short)]
        exact readFrames_part first short
      · intro more room
        cases more with
        | zero => exact fun _ => Nat.le_refl 0
        | succ more =>
          rw [List.take_succ_cons, List.flatMap_cons, List.length_append]
          omega

theorem forms_of_written {frames : List Frame} {forms : List Bytes}
    (written : frames.mapM Frame.encode = .ok forms) :
    (∀ frame ∈ frames, frame.Writable) ∧ forms = frames.map Frame.form := by
  induction frames generalizing forms with
  | nil =>
    obtain rfl := Except.ok.inj written
    exact ⟨by simp, rfl⟩
  | cons frame frames ih =>
    rw [List.mapM_cons] at written
    by_cases writable : frame.Writable
    · rw [Frame.encode_of_writable writable] at written
      cases later : frames.mapM Frame.encode with
      | error error => rw [later] at written; cases written
      | ok others =>
        rw [later] at written
        obtain rfl : frame.form :: others = forms := Except.ok.inj written
        obtain ⟨rest, rfl⟩ := ih later
        exact ⟨by simpa [writable] using rest, rfl⟩
    · rw [Frame.encode_of_not_writable writable] at written
      cases written

/-- Framing delimits itself. Frames written in a row and cut off after any number of bytes are read
as those of them that fit into these bytes, as many as do, and then the stream ends early. -/
theorem readFrames_cut {frames : List Frame} {forms : List Bytes}
    (written : frames.mapM Frame.encode = .ok forms) (cut : Nat) :
    ∃ count ≤ frames.length,
      readFrames (forms.flatten.take cut) = (frames.take count, .stream .earlyEnd) ∧
      (forms.take count).flatten.length ≤ cut ∧
      ∀ more ≤ frames.length, (forms.take more).flatten.length ≤ cut → more ≤ count := by
  obtain ⟨writable, rfl⟩ := forms_of_written written
  simp only [← List.map_take, ← List.flatMap_def]
  exact readFrames_forms frames writable cut

/-- A stream that is cut inside the payload of its third frame. -/
theorem readFrames_cut_third :
    let frames : List Frame := [.bulkAck, .bulkPull 5, .bulkDenied "no"]
    let forms : List Bytes := [[6, 0, 0, 0, 0], [3, 0, 0, 0, 8, 5, 0, 0, 0, 0, 0, 0, 0],
      [7, 0, 0, 0, 10, 2, 0, 0, 0, 0, 0, 0, 0, 110, 111]]
    frames.mapM Frame.encode = .ok forms ∧
      readFrames (forms.flatten.take 30) = ([.bulkAck, .bulkPull 5], .stream .earlyEnd) := by
  intro frames forms
  have written : frames.mapM Frame.encode = .ok forms := by decide +kernel
  obtain ⟨count, few, read, within, most⟩ := readFrames_cut written 30
  have two : count = 2 := by
    have least : 2 ≤ count := most 2 (by decide) (by decide)
    have less : count ≠ 3 := fun three => absurd within (by rw [three]; decide)
    have few : count ≤ 3 := few
    omega
  rw [two] at read
  exact ⟨written, read⟩

end KeyDepot
