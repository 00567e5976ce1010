import KeyDepot.Proofs.FrameReading
import KeyDepot.Proofs.PoisonedDatabases

namespace KeyDepot

variable {σ : Type}

/-- A call that a server took, and when. -/
structure Begun where
  moment : Nat
  target : UInt8
  request : Request
  deriving DecidableEq, Repr, Inhabited

/-- A call on this database of a provider, taken after this moment. -/
structure Begun.Later (since : Nat) (target : UInt8) (id : DatabaseId) (call : Begun) : Prop where
  after : since < call.moment
  target_eq : call.target = target
  named : call.request.database? = some id

/-- A call with the reply written for it, and when. -/
structure Answered extends Begun where
  ended : Nat
  reply : Reply
  deriving DecidableEq, Repr, Inhabited

/-- The reply that is written after a step. One too large for a frame is not. -/
def Turn.reply? (turn : Turn σ) : Option Reply :=
  match turn.said with
  | some (.reply reply) => if (Frame.reply reply).Writable then some reply else none
  | _ => none

theorem Turn.said_of_reply? {turn : Turn σ} {reply : Reply} (replied : turn.reply? = some reply) :
    turn.said = some (.reply reply) := by
  simp only [reply?] at replied
  split at replied
  · rename_i said
    split at replied
    · rw [said, Option.some.inj replied]
    · cases replied
  · cases replied

namespace Connection

variable [Engine σ] (phase : Phase) (reading : Reading) (server : Server σ)

theorem advance_server : (advance phase reading server).server =
    (server.step phase reading).server := by
  simp only [advance, write]
  split
  · rfl
  · split <;> rfl

/-- A connection that is not closed after a step stands where the step left it. -/
theorem advance_phase (underWay : (advance phase reading server).phase.isOver = false) :
    (server.step phase reading).phase = (advance phase reading server).phase := by
  simp only [advance, Server.settle] at underWay ⊢
  split at underWay
  · cases underWay
  · rename_i running
    rw [if_neg running]
    simp only [write] at underWay ⊢
    split at underWay
    · rfl
    · split at underWay
      · rfl
      · cases underWay

end Connection

/-- The lines of a server: where each stands, and the call it took last. Every reading of a line is
a moment. -/
structure Switchboard (σ : Type) where
  server : Server σ
  moment : Nat := 0
  lines : Nat → Phase
  calls : Nat → Option Begun := fun _ => none

namespace Switchboard

/-- All lines as they are accepted. -/
def ofServer (server : Server σ) : Switchboard σ :=
  { server, lines := fun _ => server.settle .idle }

/-- The call a line is at with this reading: the one it begins, or the one it was at. -/
def call? (line : Nat) (reading : Reading) (board : Switchboard σ) : Option Begun :=
  match board.lines line, reading with
  | .idle, .ok (.request target request) => some ⟨board.moment, target, request⟩
  | _, _ => board.calls line

/-- A line under way is at a call it took before, and keeps what it must of it. -/
structure Sound (board : Switchboard σ) : Prop where
  serving : ∀ line, (board.lines line).isOver = false →
    ∃ call, board.calls line = some call ∧ (board.lines line).Serves call.target call.request
  past : ∀ line call, board.calls line = some call → call.moment < board.moment

/-- The statuses a line can still tell of its call without the engine: any to a call on no database,
and the one it has promised. -/
def Owes (line : Nat) (call : Begun) (board : Switchboard σ) (status : Status) : Prop :=
  call.request.database? = none ∨
    ∃ rpc region rest reply, board.lines line = .pushing rpc region rest reply ∧
      reply.status = status

variable {board : Switchboard σ} {line : Nat} {reading : Reading} {call : Begun}

theorem call?_of_under_way (underWay : (board.lines line).isOver = false) :
    board.call? line reading = board.calls line := by
  simp only [call?]
  split
  · rename_i idle
    rw [idle] at underWay
    cases underWay
  · rfl

theorem Sound.moment_le (sound : board.Sound) (took : board.call? line reading = some call) :
    call.moment ≤ board.moment := by
  simp only [call?] at took
  split at took
  · exact (congrArg Begun.moment (Option.some.inj took)).symm.le
  · exact (sound.past line call took).le

variable [Engine σ]

/-- The step of the server on a reading of a line. -/
def turn (line : Nat) (reading : Reading) (board : Switchboard σ) : Turn σ :=
  board.server.step (board.lines line) reading

/-- The switchboard after a reading of a line. -/
def after (line : Nat) (reading : Reading) (board : Switchboard σ) : Switchboard σ :=
  let progress := Connection.advance (board.lines line) reading board.server
  { server := progress.server
    moment := board.moment + 1
    lines := Function.update board.lines line progress.phase
    calls := Function.update board.calls line (board.call? line reading) }

/-- The call that is answered on a reading of a line. -/
def answered? (line : Nat) (reading : Reading) (board : Switchboard σ) : Option Answered :=
  (board.call? line reading).bind fun call =>
    (board.turn line reading).reply?.map fun reply => { call with ended := board.moment, reply }

/-- The calls that are answered when the lines read this, one reading after the other. -/
def run : List (Nat × Reading) → Switchboard σ → List Answered
  | [], _ => []
  | (line, reading) :: rest, board =>
    (board.answered? line reading).toList ++ run rest (board.after line reading)

/-- A step is one of the call of its line, or it ends the connection and says nothing. -/
theorem Sound.turn_cases (sound : board.Sound) (line : Nat) (possible : Reading.Possible reading) :
    (∃ call, board.call? line reading = some call ∧
      (board.turn line reading).Carries board.server call.target call.request
        (board.Owes line call)) ∨
    ((board.turn line reading).said = none ∧ (board.turn line reading).phase.isOver = true ∧
      board.server.SameDatabases (board.turn line reading).server) := by
  cases stands : board.lines line with
  | idle =>
    simp only [turn, call?, stands, Server.step]
    cases reading with
    | error error =>
      right
      cases error with
      | stream fault => cases fault <;> exact ⟨rfl, rfl, fun _ _ => rfl⟩
      | _ => exact ⟨rfl, rfl, fun _ _ => rfl⟩
    | ok frame =>
      cases frame with
      | request target request =>
        exact .inl ⟨_, rfl, (board.server.dispatch_carries target request).imp fun _ => .inl⟩
      | _ => exact .inr ⟨rfl, rfl, fun _ _ => rfl⟩
  | pulling target id key source =>
    left
    have underWay : (board.lines line).isOver = false := by rw [stands]; rfl
    obtain ⟨call, took, serves⟩ := sound.serving line underWay
    rw [stands] at serves
    obtain ⟨rfl, asked, readable⟩ := serves
    refine ⟨call, (call?_of_under_way underWay).trans took, ?_⟩
    simp only [turn, stands, Server.step, asked]
    exact Server.stepPulling_carries readable possible board.server
  | pushing rpc region rest reply =>
    left
    have underWay : (board.lines line).isOver = false := by rw [stands]; rfl
    obtain ⟨call, took, serves⟩ := sound.serving line underWay
    rw [stands] at serves
    refine ⟨call, (call?_of_under_way underWay).trans took, ?_⟩
    simp only [turn, stands, Server.step]
    refine (Server.stepPushing_carries rpc region rest serves possible board.server).imp ?_
    exact fun status told => .inr ⟨rpc, region, rest, reply, stands, told.symm⟩
  | closed ending =>
    right
    have ended : board.turn line reading = ⟨board.server, .closed ending, none⟩ := by
      rw [turn, stands]
      rfl
    rw [ended]
    exact ⟨rfl, rfl, fun _ _ => rfl⟩
  | panicked cause =>
    right
    have ended : board.turn line reading = ⟨board.server, .panicked cause, none⟩ := by
      rw [turn, stands]
      rfl
    rw [ended]
    exact ⟨rfl, rfl, fun _ _ => rfl⟩

theorem after_server (line : Nat) (reading : Reading) (board : Switchboard σ) :
    (board.after line reading).server = (board.turn line reading).server :=
  Connection.advance_server _ _ _

/-- A line that is at a call after a reading stands where the turn left it, or was not read. -/
theorem line_after {other : Nat}
    (underWay : ((board.after line reading).lines other).isOver = false) :
    (other = line ∧ (board.after line reading).lines line = (board.turn line reading).phase ∧
      (board.after line reading).calls line = board.call? line reading) ∨
    ((board.after line reading).lines other = board.lines other ∧
      (board.after line reading).calls other = board.calls other) := by
  by_cases its : other = line
  · subst its
    simp only [after, Function.update_self] at underWay ⊢
    exact .inl ⟨trivial, (Connection.advance_phase _ _ _ underWay).symm, trivial⟩
  · right
    simp only [after, Function.update_of_ne its, and_self]

theorem Sound.after (sound : board.Sound) (line : Nat) (possible : Reading.Possible reading) :
    (board.after line reading).Sound where
  serving other underWay := by
    rcases line_after underWay with ⟨rfl, stands, took⟩ | ⟨stands, took⟩
    · rw [stands] at underWay ⊢
      rw [took]
      rcases sound.turn_cases other possible with ⟨call, began, carries⟩ | ⟨-, ended, -⟩
      · exact ⟨call, began, carries.serves⟩
      · exact absurd (underWay.symm.trans ended) nofun
    · rw [stands] at underWay ⊢
      rw [took]
      exact sound.serving other underWay
  past other call took := by
    have now : (board.after line reading).moment = board.moment + 1 := rfl
    by_cases its : other = line
    · subst its
      simp only [Switchboard.after, Function.update_self] at took
      have := sound.moment_le took
      omega
    · simp only [Switchboard.after, Function.update_of_ne its] at took
      have := sound.past other call took
      omega

/-- The database is poisoned, and no line has promised to carry out a call on it that was taken
after this moment. -/
structure Barred (since : Nat) (target : UInt8) (id : DatabaseId) (board : Switchboard σ) :
    Prop where
  poisoned : board.server.IsPoisoned target id
  unpromised : ∀ line call, board.calls line = some call → call.Later since target id →
    ∀ rpc region rest reply, board.lines line = .pushing rpc region rest reply →
      reply.status ∉ Status.carriedOut

variable {since : Nat} {target : UInt8} {id : DatabaseId}

/-- On a barred database the turn of a later call tells nothing that was carried out. -/
theorem Barred.tells (barred : board.Barred since target id) (sound : board.Sound)
    (possible : Reading.Possible reading) (took : board.call? line reading = some call)
    (late : call.Later since target id) :
    Tells (· ∉ Status.carriedOut) (board.turn line reading).goes := by
  rcases sound.turn_cases line possible with ⟨its, began, carries⟩ | ⟨silent, ended, -⟩
  · obtain rfl := Option.some.inj (began.symm.trans took)
    refine carries.refuses ?_ late.named (late.target_eq ▸ barred.poisoned)
    rintro status (none | ⟨rpc, region, rest, reply, stands, rfl⟩)
    · rw [late.named] at none
      cases none
    · have underWay : (board.lines line).isOver = false := by rw [stands]; rfl
      rw [call?_of_under_way underWay] at took
      exact barred.unpromised line its took late rpc region rest reply stands
  · exact Tells.silent silent ended

theorem Barred.after (barred : board.Barred since target id) (sound : board.Sound) (line : Nat)
    (possible : Reading.Possible reading) :
    (board.after line reading).Barred since target id where
  poisoned := by
    rw [after_server]
    rcases sound.turn_cases line possible with ⟨call, -, carries⟩ | ⟨-, -, same⟩
    · exact carries.stays_poisoned barred.poisoned
    · exact barred.poisoned.of_same same
  unpromised other call took late rpc region rest reply stands := by
    have underWay : ((board.after line reading).lines other).isOver = false := by rw [stands]; rfl
    rcases line_after underWay with ⟨rfl, left, its⟩ | ⟨left, its⟩
    · rw [its] at took
      rw [left] at stands
      exact (barred.tells sound possible took late).2 rpc region rest reply stands
    · rw [its] at took
      rw [left] at stands
      exact barred.unpromised other call took late rpc region rest reply stands

/-- What is answered on a reading is the call its line is at. -/
theorem answered?_eq_some {answered : Answered}
    (found : board.answered? line reading = some answered) :
    board.call? line reading = some answered.toBegun ∧
      (board.turn line reading).said = some (.reply answered.reply) ∧
      answered.ended = board.moment := by
  obtain ⟨call, took, replied⟩ := Option.bind_eq_some_iff.mp found
  obtain ⟨reply, said, rfl⟩ := Option.map_eq_some_iff.mp replied
  exact ⟨took, Turn.said_of_reply? said, rfl⟩

theorem Barred.run {events : List (Nat × Reading)} (barred : board.Barred since target id)
    (sound : board.Sound) (possible : ∀ event ∈ events, Reading.Possible event.2)
    {answered : Answered} (member : answered ∈ board.run events)
    (late : answered.toBegun.Later since target id) :
    answered.reply.status ∉ Status.carriedOut := by
  induction events generalizing board with
  | nil => cases member
  | cons event rest ih =>
    obtain ⟨line, reading⟩ := event
    obtain ⟨first, others⟩ := List.forall_mem_cons.mp possible
    rcases List.mem_append.mp member with now | then_
    · obtain ⟨took, said, -⟩ := answered?_eq_some (Option.mem_toList.mp now)
      exact (barred.tells sound first took late).1 answered.reply said
    · exact ih (barred.after sound line first) (sound.after line first) others then_

/-- A database is barred once a call on it is answered with an engine failure. -/
theorem Sound.barred (sound : board.Sound) (possible : Reading.Possible reading)
    {answered : Answered} (found : board.answered? line reading = some answered)
    (failed : answered.reply.status = .engineFailure) (named : answered.request.database? = some id)
    (plain : Engine.GivesNoPoisoned σ answered.request) :
    (board.after line reading).Barred board.moment answered.target id where
  poisoned := by
    obtain ⟨took, said, -⟩ := answered?_eq_some found
    rw [after_server]
    rcases sound.turn_cases line possible with ⟨call, began, carries⟩ | ⟨silent, -, -⟩
    · obtain rfl := Option.some.inj (began.symm.trans took)
      have untold : ¬ board.Owes line answered.toBegun .engineFailure := by
        rintro (none | ⟨rpc, region, rest, reply, stands, wrong⟩)
        · rw [named] at none
          cases none
        · obtain ⟨_, -, serves⟩ := sound.serving line (by rw [stands]; rfl)
          rw [stands] at serves
          exact serves wrong
      obtain ⟨its, same, poisoned⟩ := carries.failure_poisons untold plain said failed
      obtain rfl := Option.some.inj (same.symm.trans named)
      exact poisoned
    · rw [silent] at said
      cases said
  unpromised other call took late := by
    have past := (sound.after line possible).past other call took
    have now : (board.after line reading).moment = board.moment + 1 := rfl
    have := late.after
    omega

/-- A server of an engine that fails on one key, with an error that is not its own to give. -/
def brittle : Server BrittleStore :=
  .ofEngine { faults := [(Bytes.ofText "!poison", .poisoned ⟨77⟩)], map := { options := {} } }

end Switchboard

end KeyDepot
