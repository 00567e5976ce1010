import KeyDepot.Deployment.Caller
import KeyDepot.Proofs.FrameReading
import KeyDepot.Proofs.ServerLookup

/-! A call frame by frame. On the lines of a deployment both sides exchange bytes; the talk of a
call is what they say, whatever the length of its frames. When all of these can be written the call
goes as the talk does, and otherwise it fails. -/

namespace KeyDepot

variable {σ : Type} [Engine σ]

/-- What both sides say, in order, from a turn of the server on; the reply, when it comes to one;
the regions of the caller and the turn of the server at the end. -/
structure Talk (σ : Type) where
  frames : List Frame := []
  reply : Option Reply := none
  regions : Regions
  last : Turn σ

/-- The talk from a turn of the server on, as far as so many of its frames. -/
def Turn.talk (regions : Regions) : (patience : Nat) → Turn σ → Talk σ
  | 0, turn => { regions, last := turn }
  | patience + 1, turn =>
    match turn.said with
    | none => { regions, last := turn }
    | some (.reply reply) =>
      { frames := [.reply reply], reply := some reply, regions, last := turn }
    | some frame =>
      match regions.answer? frame with
      | none => { frames := [frame], regions, last := turn }
      | some (answer, regions) =>
        let later := talk regions patience (turn.server.step turn.phase (.ok answer))
        { later with frames := frame :: answer :: later.frames }

/-- The talk of a request, from the request on. -/
def Server.talk (target : UInt8) (request : Request) (regions : Regions) (server : Server σ) :
    Talk σ :=
  let turn := server.step .idle (.ok (.request target request))
  let talk := turn.talk regions turn.phase.outstanding
  { talk with frames := .request target request :: talk.frames }

theorem Regions.answer?_ne_shutdown {frame answer : Frame} {regions after : Regions}
    (answered : regions.answer? frame = some (answer, after)) : answer ≠ .shutdown := by
  rintro rfl
  simp only [answer?] at answered
  repeat' split at answered
  all_goals simp at answered

theorem Regions.react_answer {frame answer : Frame} {regions after : Regions}
    (answered : regions.answer? frame = some (answer, after)) (peer : String) :
    regions.react peer (.ok frame) = (.say answer, after) := by
  cases frame <;> simp [answer?] at answered <;> simp [react, answer?, answered]

namespace Line

/-- A line on which nothing is on its way. -/
def quiet (phase : Phase) : Line := { far := { phase } }

/-- The line after a turn of the server. -/
def after (turn : Turn σ) : Line :=
  let progress := Connection.write turn
  { far := { phase := progress.server.settle progress.phase }, unread := progress.written }

/-- A frame that comes over a quiet line makes the server take its turn. -/
theorem send_form {frame : Frame} (writable : frame.Writable) {phase : Phase}
    (opened : phase.isClosed = false) (server : Server σ) :
    (quiet phase).send frame.form server =
      (after (server.step phase (.ok frame)), (server.step phase (.ok frame)).server) := by
  have taken : takeFrames frame.form = ([.ok frame], []) := by
    simpa [takeFrames_nil] using takeFrames_form writable []
  have served : (Connection.write (server.step phase (.ok frame))).server =
      (server.step phase (.ok frame)).server := by
    simp only [Connection.write]
    repeat' split
    all_goals rfl
  simp [quiet, send, opened, Connection.receive, taken, Connection.run, Connection.advance, after,
    served]

omit [Engine σ] in
theorem after_written {turn : Turn σ} (running : turn.server.stopped = false) {frame : Frame}
    (said : turn.said = some frame) (writable : frame.Writable) :
    after turn = { quiet turn.phase with unread := frame.form } := by
  simp [after, Connection.write, said, Frame.encode_of_writable writable, quiet,
    Server.settle_of_running running]

omit [Engine σ] in
theorem after_refused {turn : Turn σ} (running : turn.server.stopped = false) {frame : Frame}
    (said : turn.said = some frame) (large : ¬ frame.Writable) :
    after turn = quiet (.closed (.error (.protocol (.payloadTooLarge frame.payloadSize)))) := by
  simp [after, Connection.write, said, Frame.encode_of_not_writable large, quiet,
    Server.settle_of_running running]

theorem next?_form {frame : Frame} (writable : frame.Writable) (phase : Phase) :
    ({ quiet phase with unread := frame.form } : Line).next? = some (.ok frame, quiet phase) := by
  have taken : takeFrame? frame.form = some ⟨.ok frame, []⟩ := by
    simpa using takeFrame?_form writable []
  simp [next?, taken, quiet]

/-- What the caller reads of a turn that could not be written is the end of the stream. -/
theorem next?_closed {phase : Phase} (closed : phase.isClosed = true) :
    (quiet phase).next? = some (.error (.stream .earlyEnd), quiet phase) := by
  simp [next?, quiet, closed]

end Line

namespace Turn

theorem talk_cases {turn : Turn σ} {regions : Regions} {patience : Nat} {reply : Reply}
    (replied : (turn.talk regions patience).reply = some reply) :
    ∃ earlier, patience = earlier + 1 ∧
      ((turn.said = some (.reply reply) ∧ turn.talk regions patience =
          { frames := [.reply reply], reply := some reply, regions, last := turn }) ∨
        ∃ frame answer changed, turn.said = some frame ∧
          regions.answer? frame = some (answer, changed) ∧
          let later :=
            (turn.server.step turn.phase (.ok answer)).talk changed earlier
          later.reply = some reply ∧ turn.talk regions patience =
            { later with frames := frame :: answer :: later.frames }) := by
  cases patience with
  | zero => simp [talk] at replied
  | succ earlier =>
    refine ⟨earlier, rfl, ?_⟩
    rw [talk] at replied ⊢
    cases said : turn.said with
    | none => simp [said] at replied
    | some frame =>
      cases answered : regions.answer? frame with
      | none =>
        cases frame <;> simp [said, answered] at replied
        simp [replied]
      | some step =>
        obtain ⟨answer, changed⟩ := step
        refine .inr ⟨frame, answer, changed, rfl, answered, ?_⟩
        cases frame <;> simp [Regions.answer?] at answered <;>
          simp_all [Regions.answer?]

theorem isClosed_of_talk {turn : Turn σ} {regions : Regions} {patience : Nat} {reply : Reply}
    {answer : Frame}
    (replied : ((turn.server.step turn.phase (.ok answer)).talk regions patience).reply =
      some reply) : turn.phase.isClosed = false := by
  cases stand : turn.phase with
  | closed ending => cases patience <;> simp [stand, Server.step, talk] at replied
  | panicked cause => cases patience <;> simp [stand, Server.step, talk] at replied
  | _ => rfl

end Turn

namespace Line

/-- A talk whose frames can all be written is the conversation over the line. -/
theorem discuss_talk (peer : String) {turn : Turn σ} {regions : Regions} {patience : Nat}
    {reply : Reply} (running : turn.server.stopped = false)
    (replied : (turn.talk regions patience).reply = some reply)
    (writable : ∀ frame ∈ (turn.talk regions patience).frames, frame.Writable) :
    (after turn).discuss peer patience regions turn.server =
      ⟨some (.ok reply), (turn.talk regions patience).regions,
        quiet (turn.talk regions patience).last.phase,
        (turn.talk regions patience).last.server⟩ := by
  induction patience generalizing turn regions with
  | zero => simp [Turn.talk] at replied
  | succ earlier ih =>
    obtain ⟨_, same, ⟨said, ends⟩ | ⟨frame, answer, changed, said, answered, later, ends⟩⟩ :=
      Turn.talk_cases replied
    · obtain rfl := Nat.succ.inj same
      rw [ends] at writable ⊢
      have wrote : (Frame.reply reply).Writable := writable _ (by simp)
      simp [after_written running said wrote, discuss, next?_form wrote, Regions.react]
    · obtain rfl := Nat.succ.inj same
      rw [ends] at writable ⊢
      have wrote : frame.Writable := writable _ (by simp)
      have answers : answer.Writable := writable _ (by simp)
      have continues := Server.step_continues (Regions.answer?_ne_shutdown answered) turn.phase
        turn.server
      rw [after_written running said wrote]
      simp only [discuss, next?_form wrote, Regions.react_answer answered, Reaction.say,
        Frame.encode_of_writable answers,
        send_form answers (Turn.isClosed_of_talk later) turn.server]
      exact ih (continues.stopped.trans running) later
        fun other member => writable other (by simp [member])

/-- A talk in which some frame cannot be written is a conversation that fails. -/
theorem discuss_fails (peer : String) {turn : Turn σ} {regions : Regions} {patience : Nat}
    {reply : Reply} (running : turn.server.stopped = false)
    (replied : (turn.talk regions patience).reply = some reply)
    (large : ∃ frame ∈ (turn.talk regions patience).frames, ¬ frame.Writable) :
    ∃ error, ((after turn).discuss peer patience regions turn.server).result =
      some (.error error) := by
  induction patience generalizing turn regions with
  | zero => simp [Turn.talk] at replied
  | succ earlier ih =>
    obtain ⟨_, same, ⟨said, ends⟩ | ⟨frame, answer, changed, said, answered, later, ends⟩⟩ :=
      Turn.talk_cases replied
    · rw [ends] at large
      obtain ⟨frame, member, refused⟩ := large
      obtain rfl := List.mem_singleton.mp member
      rw [after_refused running said refused, discuss, next?_closed rfl]
      exact ⟨_, rfl⟩
    · obtain rfl := Nat.succ.inj same
      rw [ends] at large
      by_cases wrote : frame.Writable
      · rw [after_written running said wrote]
        by_cases answers : answer.Writable
        · have continues := Server.step_continues (Regions.answer?_ne_shutdown answered)
            turn.phase turn.server
          simp only [discuss, next?_form wrote, Regions.react_answer answered, Reaction.say,
            Frame.encode_of_writable answers,
            send_form answers (Turn.isClosed_of_talk later) turn.server]
          refine ih (continues.stopped.trans running) later ?_
          obtain ⟨other, member, refused⟩ := large
          rcases List.mem_cons.mp member with rfl | member
          · exact absurd wrote refused
          rcases List.mem_cons.mp member with rfl | member
          · exact absurd answers refused
          exact ⟨other, member, refused⟩
        · simp [discuss, next?_form wrote, Regions.react_answer answered, Reaction.say,
            Frame.encode_of_not_writable answers]
      · rw [after_refused running said wrote, discuss, next?_closed rfl]
        exact ⟨_, rfl⟩

end Line

namespace Caller

/-- A caller between two calls on a running server that serves it: nothing is on its way on any
line, and a line is there or can be had. -/
structure Ready (active : Nat) (caller : Caller) (server : Server σ) : Prop where
  quiet : ∀ line ∈ caller.idle, line = Line.quiet .idle
  running : server.stopped = false
  served : caller.idle = [] → server.accepts active = true

omit [Engine σ] in
theorem ready_of_unused {active : Nat} {caller : Caller} {server : Server σ}
    (unused : caller.idle = []) (running : server.stopped = false)
    (accepts : server.accepts active = true) : caller.Ready active server where
  quiet := by simp [unused]
  running := running
  served _ := accepts

omit [Engine σ] in
theorem checkout_ready {active : Nat} {caller : Caller} {server : Server σ}
    (ready : caller.Ready active server) :
    caller.checkout .steady active server =
      .ok (Line.quiet .idle, { caller with idle := caller.idle.tail }) := by
  cases lines : caller.idle with
  | nil =>
    have accepted := ready.served lines
    obtain ⟨client, peer, idle⟩ := caller
    obtain rfl : idle = [] := lines
    simp [checkout, ready.running, Line.connect, accepted, Connection.accept,
      Server.settle_of_running ready.running, Line.quiet]
  | cons line idle =>
    have still := ready.quiet line (by simp [lines])
    simp [checkout, lines, still]

/-- How the exchange of a ready caller goes on, once its request is on the line. -/
theorem exchange_ready {active : Nat} {caller : Caller} {server : Server σ}
    (ready : caller.Ready active server) {target : UInt8} {request : Request}
    (asked : (Frame.request target request).Writable) :
    let turn := server.step .idle (.ok (.request target request))
    let course := (Line.after turn).discuss caller.peer (Line.after turn).far.phase.outstanding
      caller.client.regions turn.server
    let changed : Caller :=
      { caller with
        client := { caller.client with regions := course.regions }, idle := caller.idle.tail }
    caller.exchange .steady active target request server =
      match course.result with
      | some (.ok reply) =>
        (some (.ok reply), { changed with idle := course.line :: changed.idle }, course.server)
      | some (.error error) =>
        (some (.error error), changed, (course.line.finish course.server).2)
      | none =>
        (((none : Option TransportFault).map Error.transport <|>
            changed.client.silence? caller.peer).map .error, changed,
          (course.line.finish course.server).2) := by
  intro turn course changed
  simp only [exchange, checkout_ready ready, Frame.encode_of_writable asked,
    Line.send_form asked (show Phase.idle.isClosed = false from rfl) server]
  rfl

/-- The first frame the server says in a talk that comes to a reply. -/
theorem said_of_talk {turn : Turn σ} {regions : Regions} {patience : Nat} {reply : Reply}
    (replied : (turn.talk regions patience).reply = some reply) :
    ∃ frame, turn.said = some frame ∧ frame ∈ (turn.talk regions patience).frames := by
  obtain ⟨_, -, ⟨said, ends⟩ | ⟨frame, answer, changed, said, -, -, ends⟩⟩ :=
    Turn.talk_cases replied
  · exact ⟨_, said, by simp [ends]⟩
  · exact ⟨frame, said, by simp [ends]⟩

/-- When every frame of a talk that comes to a reply can be written, the exchange goes as the talk
does, and the line is kept as the talk leaves it. -/
theorem exchange_talk {active : Nat} {caller : Caller} {server : Server σ}
    (ready : caller.Ready active server) {target : UInt8} {request : Request} {reply : Reply}
    (replied : (server.talk target request caller.client.regions).reply = some reply)
    (writable : ∀ frame ∈ (server.talk target request caller.client.regions).frames,
      frame.Writable) :
    caller.exchange .steady active target request server =
      (some (.ok reply),
        { caller with
          client := { caller.client with
            regions := (server.talk target request caller.client.regions).regions }
          idle := Line.quiet (server.talk target request caller.client.regions).last.phase ::
            caller.idle.tail },
        (server.talk target request caller.client.regions).last.server) := by
  have asked : (Frame.request target request).Writable := writable _ (List.mem_cons_self ..)
  have running := (Server.step_continues (show Frame.request target request ≠ .shutdown by simp)
    .idle server).stopped.trans ready.running
  have wrote : ∀ frame ∈ ((server.step .idle (.ok (.request target request))).talk
      caller.client.regions
      (server.step .idle (.ok (.request target request))).phase.outstanding).frames,
      frame.Writable := fun frame member => writable frame (List.mem_cons_of_mem _ member)
  obtain ⟨frame, said, member⟩ := said_of_talk replied
  have stands : (Line.after (server.step .idle (.ok (.request target request)))).far.phase =
      (server.step .idle (.ok (.request target request))).phase := by
    rw [Line.after_written running said (wrote frame member)]
    rfl
  rw [exchange_ready ready asked]
  simp only [stands, Line.discuss_talk caller.peer running replied wrote]
  rfl

/-- When some frame of a talk that comes to a reply cannot be written, the exchange fails. -/
theorem exchange_fails {active : Nat} {caller : Caller} {server : Server σ}
    (ready : caller.Ready active server) {target : UInt8} {request : Request} {reply : Reply}
    (replied : (server.talk target request caller.client.regions).reply = some reply)
    (large : ∃ frame ∈ (server.talk target request caller.client.regions).frames,
      ¬ frame.Writable) :
    ∃ error, (caller.exchange .steady active target request server).1 = some (.error error) := by
  by_cases asked : (Frame.request target request).Writable
  · have goesOn : Frame.request target request ≠ .shutdown := by simp
    have running := (Server.step_continues goesOn .idle server).stopped.trans ready.running
    obtain ⟨first, said, member⟩ := said_of_talk replied
    rw [exchange_ready ready asked]
    by_cases wrote : first.Writable
    · have stands : (Line.after (server.step .idle (.ok (.request target request)))).far.phase =
          (server.step .idle (.ok (.request target request))).phase := by
        rw [Line.after_written running said wrote]
        rfl
      obtain ⟨frame, inside, refused⟩ := large
      have later := (List.mem_cons.mp inside).resolve_left fun same => refused (same ▸ asked)
      obtain ⟨error, fails⟩ :=
        Line.discuss_fails caller.peer running replied ⟨frame, later, refused⟩
      simp only [stands, fails]
      exact ⟨error, rfl⟩
    · simp [Line.after_refused running said wrote, Line.quiet, Phase.outstanding, Line.discuss,
        Line.next?, Phase.isClosed, Regions.react]
  · simp [exchange, checkout_ready ready, Frame.encode_of_not_writable asked]

end Caller

end KeyDepot
