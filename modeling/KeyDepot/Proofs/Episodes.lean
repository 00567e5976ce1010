import KeyDepot.Proofs.Switchboard

namespace KeyDepot

variable {σ : Type}

/-- The frame that is written after a step. One too large is not. -/
def Turn.written? (turn : Turn σ) : Option Frame :=
  turn.said.filter fun frame => decide frame.Writable

/-- One call on a connection, or the part of it so far: the server and the phase at its end, the
frames written in it, and the readings after it. -/
structure Episode (σ : Type) where
  server : Server σ
  phase : Phase
  said : List Frame
  left : List Reading

/-- A step upholds what is to hold after it, and says what may be said. -/
structure Turn.Upholds (holds : Phase → Server σ → Prop) (fine : Frame → Prop) (turn : Turn σ) :
    Prop where
  holds : holds turn.phase turn.server
  said : ∀ frame, turn.said = some frame → fine frame

/-- What holds of the server after the call, and of all that is said in it. -/
structure Episode.Upholds (holds : Phase → Server σ → Prop) (fine : Frame → Prop)
    (call : Episode σ) : Prop where
  holds : ∃ phase, holds phase call.server
  said : ∀ frame ∈ call.said, fine frame

/-- Calls that are the same to the other side. -/
structure Episode.Agrees (call other : Episode σ) : Prop where
  said : call.said = other.said
  left : call.left = other.left

theorem Turn.written?_eq_some {turn : Turn σ} {frame : Frame} :
    turn.written? = some frame ↔ turn.said = some frame ∧ frame.Writable := by
  simp [written?, Option.filter_eq_some_iff]

theorem Phase.isOver_fail (rpc : Rpc) (error : Error) : (fail rpc error).1.isOver = true := by
  simp only [fail]
  split <;> rfl

namespace Server

theorem isOver_settle (server : Server σ) (phase : Phase) :
    (server.settle phase).isOver = phase.isOver := by
  simp only [settle]
  split
  · rename_i idle
    cases phase <;> simp_all [Phase.isIdle, Phase.isOver]
  · rfl

theorem settle_closed {phase : Phase} (closed : phase.isClosed = true) (server : Server σ) :
    server.settle phase = phase := by
  cases phase <;> simp_all [settle, Phase.isIdle, Phase.isClosed]

theorem settle_under_way {phase : Phase} (underWay : phase.isOver = false) (server : Server σ) :
    server.settle phase = phase := by
  cases phase with
  | idle | closed | panicked => cases underWay
  | pulling | pushing => simp [settle, Phase.isIdle]

theorem failWith_over (rpc : Rpc) (error : Error) (server : Server σ) :
    (server.failWith rpc error).phase.isOver = true :=
  Phase.isOver_fail rpc error

variable [Engine σ]

theorem runFor_over (target : UInt8) (id : DatabaseId) (rpc : Rpc) {operation : Operation}
    {next : operation.Answer → Phase × Option Frame} (answers : ∀ answer, (next answer).1.isOver)
    (server : Server σ) : (server.runFor target id rpc operation next).phase.isOver = true := by
  change (Turn.goes _).1.isOver = true
  rcases server.runFor_cases target id rpc operation next with
    ⟨-, -, gone⟩ | ⟨db, -, -, -, ⟨error, -, failed⟩ | ⟨answer, -, answered⟩⟩
  · rw [gone]
    rfl
  · rw [failed]
    exact Phase.isOver_fail rpc error
  · rw [answered]
    exact answers answer

theorem pulling_over (target : UInt8) (id : DatabaseId) (key : Bytes) (source : Descriptor)
    (reading : Reading) (server : Server σ) :
    (server.step (.pulling target id key source) reading).phase.isOver = true := by
  simp only [step, stepPulling]
  split
  · split
    · exact runFor_over target id _ (fun _ => rfl) server
    · exact failWith_over _ _ server
  all_goals exact failWith_over _ _ server

end Server

namespace Connection

theorem write_written (turn : Turn σ) :
    (write turn).written = turn.written?.toList.flatMap Frame.form := by
  simp only [write]
  cases said : turn.said with
  | none => simp [Turn.written?, said]
  | some frame =>
    by_cases writable : frame.Writable
    · simp [Turn.written?, said, Frame.encode_of_writable writable, Option.filter_some, writable]
    · simp [Turn.written?, said, Frame.encode_of_not_writable writable, Option.filter_some,
        writable]

variable [Engine σ]

/-- Steps through readings until the call is over. -/
def episode (phase : Phase) (server : Server σ) : List Reading → Episode σ
  | [] => ⟨server, phase, [], []⟩
  | reading :: rest =>
    let progress := advance phase reading server
    let said := (server.step phase reading).written?.toList
    if progress.phase.isOver then ⟨progress.server, progress.phase, said, rest⟩
    else
      let later := episode progress.phase progress.server rest
      { later with said := said ++ later.said }

theorem advance_written (phase : Phase) (reading : Reading) (server : Server σ) :
    (advance phase reading server).written =
      (server.step phase reading).written?.toList.flatMap Frame.form :=
  write_written _

theorem advance_closed {phase : Phase} (closed : phase.isClosed = true) (reading : Reading)
    (server : Server σ) :
    advance phase reading server = ⟨server, phase, []⟩ ∧
      (server.step phase reading).written? = none ∧ phase.isOver = true := by
  cases phase with
  | closed ending => simp [advance, write, Server.step, Server.settle, Phase.isIdle, Turn.written?,
      Phase.isOver]
  | panicked cause => simp [advance, write, Server.step, Server.settle, Phase.isIdle,
      Turn.written?, Phase.isOver]
  | _ => cases closed

/-- The run of a connection is the call under way and, from where that leaves it, the rest. -/
theorem run_eq_episode (phase : Phase) (server : Server σ) (readings : List Reading) :
    run phase server readings =
      let call := episode phase server readings
      let others := run call.phase call.server call.left
      { others with written := call.said.flatMap Frame.form ++ others.written } := by
  induction readings generalizing phase server with
  | nil => rfl
  | cons reading rest ih =>
    by_cases closed : phase.isClosed = true
    · obtain ⟨still, silent, unread⟩ := advance_closed closed reading server
      simp [episode, still, silent, unread, run_closed closed]
    · simp only [run, closed, Bool.false_eq_true, if_false, episode]
      split
      · rw [advance_written]
      · simp only [ih, advance_written, List.flatMap_append, List.append_assoc]

theorem isOver_advance {phase : Phase} {reading : Reading} {server : Server σ}
    (fits : ∀ frame, (server.step phase reading).said = some frame → frame.Writable) :
    (advance phase reading server).phase.isOver = (server.step phase reading).phase.isOver := by
  simp only [advance, Server.isOver_settle, write]
  split
  · rfl
  · rename_i frame said
    rw [Frame.encode_of_writable (fits frame said)]

variable {phase : Phase} {server : Server σ}

/-- The call is over after a reading, or goes on from where the step left it. -/
theorem episode_cons (phase : Phase) (server : Server σ) (reading : Reading) (rest : List Reading) :
    ((advance phase reading server).phase.isOver = true ∧
      episode phase server (reading :: rest) = ⟨(server.step phase reading).server,
        (advance phase reading server).phase, (server.step phase reading).written?.toList, rest⟩) ∨
    ((server.step phase reading).phase.isOver = false ∧
      episode phase server (reading :: rest) =
        let later := episode (server.step phase reading).phase
          (server.step phase reading).server rest
        { later with said := (server.step phase reading).written?.toList ++ later.said }) := by
  cases settled : (advance phase reading server).phase.isOver with
  | true =>
    left
    simp only [episode, settled, if_true, advance_server, and_self]
  | false =>
    right
    have same := advance_phase phase reading server settled
    rw [same]
    simp only [episode, settled, advance_server, Bool.false_eq_true, if_false, and_self]

theorem episode_over {reading : Reading} (settled : (server.step phase reading).phase.isOver = true)
    (rest : List Reading) : episode phase server (reading :: rest) =
      ⟨(server.step phase reading).server, (advance phase reading server).phase,
        (server.step phase reading).written?.toList, rest⟩ := by
  rcases episode_cons phase server reading rest with ⟨-, ends⟩ | ⟨underWay, -⟩
  · exact ends
  · rw [settled] at underWay
    cases underWay

theorem episode_asked {reading : Reading} {ask : Frame}
    (said : (server.step phase reading).said = some ask) (writable : ask.Writable)
    (underWay : (server.step phase reading).phase.isOver = false) (rest : List Reading) :
    episode phase server (reading :: rest) =
      let later := episode (server.step phase reading).phase
        (server.step phase reading).server rest
      { later with said := ask :: later.said } := by
  have goesOn : (advance phase reading server).phase.isOver = false := by
    rw [isOver_advance, underWay]
    intro frame spoken
    obtain rfl := Option.some.inj (said.symm.trans spoken)
    exact writable
  have wrote := Turn.written?_eq_some.mpr ⟨said, writable⟩
  rcases episode_cons phase server reading rest with ⟨settled, -⟩ | ⟨-, ends⟩
  · rw [goesOn] at settled
    cases settled
  · rw [ends, wrote]
    rfl

section Keeping

variable {holds : Phase → Server σ → Prop} {fine : Frame → Prop}

/-- A call upholds what its first step does and what follows on it, if anything follows. -/
theorem upholds_cons {reading : Reading} (first : (server.step phase reading).Upholds holds fine)
    {readings : List Reading}
    (others : (server.step phase reading).phase.isOver = false →
      (episode (server.step phase reading).phase (server.step phase reading).server
        readings).Upholds holds fine) :
    (episode phase server (reading :: readings)).Upholds holds fine := by
  have spoken : ∀ frame ∈ (server.step phase reading).written?.toList, fine frame :=
    fun frame member => first.said frame (Turn.written?_eq_some.mp (Option.mem_toList.mp member)).1
  rcases episode_cons phase server reading readings with ⟨-, ends⟩ | ⟨goesOn, ends⟩
  · rw [ends]
    exact ⟨⟨_, first.holds⟩, spoken⟩
  · rw [ends]
    obtain ⟨left, later⟩ := others goesOn
    exact ⟨left, List.forall_mem_append.mpr ⟨spoken, later⟩⟩

/-- What every step of a call under way upholds, the whole call does. -/
theorem upholds_of_steps
    (steps : ∀ {phase server} reading, phase.isOver = false → holds phase server →
      (server.step phase reading).Upholds holds fine)
    (underWay : phase.isOver = false) (now : holds phase server) (readings : List Reading) :
    (episode phase server readings).Upholds holds fine := by
  induction readings generalizing phase server with
  | nil => exact ⟨⟨phase, now⟩, nofun⟩
  | cons reading rest ih =>
    have next := steps reading underWay now
    exact upholds_cons next fun goesOn => ih goesOn next.holds

end Keeping

section Agreeing

variable {alike : Phase → Server σ → Server σ → Prop} {left right : Server σ}

theorem isOver_advance_congr {reading : Reading}
    (goes : (left.step phase reading).goes = (right.step phase reading).goes) :
    (advance phase reading left).phase.isOver = (advance phase reading right).phase.isOver := by
  obtain ⟨stands, said⟩ := Prod.mk.inj goes
  -- a frame too large to be written closes both connections, any other leaves both as they stand
  simp only [advance, Server.isOver_settle, write, said]
  split
  · rw [stands]
  · split
    · rw [stands]
    · rfl

/-- Two calls whose first steps go the same way are the same if what follows is. -/
theorem agree_cons {reading : Reading}
    (goes : (left.step phase reading).goes = (right.step phase reading).goes)
    {readings : List Reading}
    (others : (left.step phase reading).phase.isOver = false →
      (episode (left.step phase reading).phase (left.step phase reading).server readings).Agrees
        (episode (left.step phase reading).phase (right.step phase reading).server readings)) :
    (episode phase left (reading :: readings)).Agrees
      (episode phase right (reading :: readings)) := by
  obtain ⟨stands, said⟩ := Prod.mk.inj goes
  have spoken : (left.step phase reading).written? = (right.step phase reading).written? := by
    simp only [Turn.written?, said]
  have ends := isOver_advance_congr goes
  cases settled : (advance phase reading left).phase.isOver with
  | true =>
    rw [settled] at ends
    simp only [episode, settled, ← ends, if_true, spoken]
    exact ⟨rfl, rfl⟩
  | false =>
    rw [settled] at ends
    have first := advance_phase phase reading left settled
    have second := advance_phase phase reading right ends.symm
    obtain ⟨same, rest⟩ := others (by rw [first, settled])
    rw [first] at same rest
    simp only [episode, settled, Bool.false_eq_true, if_false, spoken, advance_server, ← second,
      ← stands, first]
    exact ⟨by rw [same], rest⟩

/-- Calls under way that every step takes the same way are the same. -/
theorem agree_of_steps
    (steps : ∀ {phase left right} reading, phase.isOver = false → alike phase left right →
      (left.step phase reading).goes = (right.step phase reading).goes ∧
        ((left.step phase reading).phase.isOver = false →
          alike (left.step phase reading).phase (left.step phase reading).server
            (right.step phase reading).server))
    (underWay : phase.isOver = false) (now : alike phase left right) (readings : List Reading) :
    (episode phase left readings).Agrees (episode phase right readings) := by
  induction readings generalizing phase left right with
  | nil => exact ⟨rfl, rfl⟩
  | cons reading rest ih =>
    obtain ⟨goes, next⟩ := steps reading underWay now
    exact agree_cons goes fun goesOn => ih goesOn (next goesOn)

end Agreeing

end Connection

end KeyDepot
