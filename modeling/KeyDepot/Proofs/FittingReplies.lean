import KeyDepot.Proofs.WithinDescriptors

/-! Which reply a server may give to a call. It has the shape of its call and a status of the call's
own, and tells of a value or a listing only what the engine gave and the call has room for; whatever
the state of the server, the engine and the other side. -/

namespace KeyDepot

variable {σ : Type}

/-- The engine behind a database answers a get of the key with this value. -/
def Server.Finds [Engine σ] (target : UInt8) (id : DatabaseId) (key value : Bytes)
    (server : Server σ) : Prop :=
  ∃ db, server.kept? target id = some db ∧
    (Engine.perform (.get key) db.store).1 = .ok (some value)

/-- A status and a size that tell of a value as it is held: that it has this size and is within the
limit, or that it is longer. -/
structure Status.Measures (holds : Bytes → Prop) (limit : Nat) (size : UInt64) (status : Status) :
    Prop where
  allowed : status ≠ .policyViolation
  whole : status = .ok → ∃ value, holds value ∧ size.toNat = value.length ∧ value.length ≤ limit
  truncated : status = .truncated →
    ∃ value, holds value ∧ size = UInt64.ofNat value.length ∧ limit < value.length

/-- The replies that a server in this state may give to a call it takes. -/
def Request.Permits [Engine σ] (target : UInt8) (server : Server σ) : Request → Reply → Prop
  | .openName _, .opened status db => status = .ok ↔ db.isSome = true
  | .put .., .ack status | .bulkPut .., .ack status => status ∉ [.notFound, .truncated]
  | .get db key maxSize, .got status value size =>
    status.Measures (server.Finds target db key) maxSize.toNat size ∧
      (status = .ok → server.Finds target db key value) ∧ (status ≠ .ok → value = [])
  | .bulkGet db key buffer, .bulkGot status size =>
    status.Measures (server.Finds target db key) buffer.capacity size
  | .erase .., .ack status | .length .., .length status _ =>
    status ∉ [.policyViolation, .truncated]
  | .listKeys _ _ _ maxKeys keys _, .listed status count =>
    status ∉ [.notFound, .policyViolation] ∧ count.toNat ≤ min maxKeys.toNat keys.count
  | .listPairs _ _ _ maxKeys keys _ values _, .listed status count =>
    status ∉ [.notFound, .policyViolation] ∧
      count.toNat ≤ min (min maxKeys.toNat keys.count) values.count
  | _, _ => False

/-- The buffer a call describes for a value has a size of 64 bits. -/
def Request.Bounded (request : Request) : Prop :=
  ∀ db key buffer, request = .bulkGet db key buffer → buffer.capacity < 2 ^ 64

/-- A request that is read is bounded so. -/
def Reading.Bounded (reading : Reading) : Prop :=
  ∀ target request, reading = .ok (.request target request) → request.Bounded

namespace Status.Measures

variable {holds : Bytes → Prop} {limit : Nat}

theorem of_other {status : Status} (other : status ∉ [.ok, .policyViolation, .truncated])
    (size : UInt64) : status.Measures holds limit size := by
  simp only [List.mem_cons, List.not_mem_nil, or_false, not_or] at other
  obtain ⟨failed, allowed, short⟩ := other
  exact ⟨allowed, fun same => absurd same failed, fun same => absurd same short⟩

theorem of_whole {value : Bytes} (held : holds value) (counted : limit < 2 ^ 64)
    (within : value.length ≤ limit) :
    Measures holds limit (UInt64.ofNat value.length) .ok where
  allowed := by rintro ⟨⟩
  whole _ := by
    refine ⟨value, held, ?_, within⟩
    rw [UInt64.toNat_ofNat']
    exact Nat.mod_eq_of_lt (Nat.lt_of_le_of_lt within counted)
  truncated := by rintro ⟨⟩

theorem of_truncated {value : Bytes} (held : holds value) (longer : limit < value.length) :
    Measures holds limit (UInt64.ofNat value.length) .truncated where
  allowed := by rintro ⟨⟩
  whole := by rintro ⟨⟩
  truncated _ := ⟨value, held, rfl, longer⟩

end Status.Measures

theorem Error.replyStatus_not_carriedOut (error : Error) :
    error.replyStatus ∉ Status.carriedOut := by
  cases unusable : error.isEngineFailure with
  | true => simp [replyStatus, unusable, Status.carriedOut]
  | false => exact Status.not_carriedOut_of_isFault (replyStatus_isFault unusable)

/-- A connection that is idle after a step was left so by the step, and what was said is written. -/
theorem Connection.wrote_of_idle [Engine σ] {phase : Phase} {reading : Reading} {now : Server σ}
    (idle : (advance phase reading now).phase = .idle) :
    (now.step phase reading).phase = .idle ∧ ∀ frame,
      (now.step phase reading).said = some frame →
        (now.step phase reading).written? = some frame := by
  simp only [advance, Server.settle] at idle
  split at idle
  · cases idle
  · simp only [write] at idle
    split at idle
    · rename_i silent
      exact ⟨idle, fun frame said => by rw [silent] at said; cases said⟩
    · rename_i frame said
      by_cases writable : frame.Writable
      · rw [Frame.encode_of_writable writable] at idle
        refine ⟨idle, fun other same => ?_⟩
        obtain rfl := Option.some.inj (said.symm.trans same)
        exact Turn.written?_eq_some.mpr ⟨said, writable⟩
      · rw [Frame.encode_of_not_writable writable] at idle
        cases idle

section Permits

variable [Engine σ] {target : UInt8} {server : Server σ} {request : Request}

/-- The empty reply of a call that was not carried out is permitted to every call. -/
theorem Request.permits_failure {status : Status} (fault : status ∉ Status.carriedOut) :
    request.Permits target server (.failure request.rpc status) := by
  simp only [Status.carriedOut, List.mem_cons, List.not_mem_nil, or_false, not_or] at fault
  obtain ⟨failed, missing, policy, short⟩ := fault
  have unmeasured : status ∉ [.ok, .policyViolation, .truncated] := by simp [failed, policy, short]
  cases request with
  | openName name => exact iff_of_false failed Bool.false_ne_true
  | put | bulkPut => simp [Request.rpc, Reply.failure, Request.Permits, missing, short]
  | get db key maxSize =>
    exact ⟨.of_other unmeasured 0, fun same => absurd same failed, fun _ => rfl⟩
  | bulkGet db key buffer => exact .of_other unmeasured 0
  | erase | length => simp [Request.rpc, Reply.failure, Request.Permits, policy, short]
  | listKeys | listPairs => simp [Request.rpc, Reply.failure, Request.Permits, missing, policy]

/-- What a connection that stands here is going to reply. -/
def Phase.Promises (target : UInt8) (server : Server σ) (request : Request) : Phase → Prop
  | pulling other id key source => other = target ∧ request = .bulkPut id key source
  | pushing rpc _ _ reply => rpc = request.rpc ∧ request.Permits target server reply
  | _ => True

/-- What is replied, and what is going to be replied, is permitted. A call is not over without a
reply, unless its connection is. -/
structure Request.Abides (target : UInt8) (server : Server σ) (request : Request)
    (goes : Phase × Option Frame) : Prop where
  waits : goes.1.Promises target server request
  said : ∀ reply, goes.2 = some (.reply reply) → request.Permits target server reply
  replied : goes.1 = .idle → ∃ reply, goes.2 = some (.reply reply)

namespace Request.Abides

theorem answer {reply : Reply} (permits : request.Permits target server reply) :
    request.Abides target server (Phase.answer reply) where
  waits := trivial
  said := by
    rintro _ ⟨⟩
    exact permits
  replied _ := ⟨reply, rfl⟩

/-- What says no reply, and does not end the call while the connection lasts. -/
theorem unreplied {goes : Phase × Option Frame} (waits : goes.1.Promises target server request)
    (unsaid : ∀ reply, goes.2 ≠ some (.reply reply)) (underWay : goes.1 ≠ .idle) :
    request.Abides target server goes where
  waits := waits
  said reply told := absurd told (unsaid reply)
  replied idle := absurd idle underWay

theorem fail (error : Error) : request.Abides target server (Phase.fail request.rpc error) := by
  simp only [Phase.fail]
  split
  · exact unreplied trivial (by rintro _ ⟨⟩) (by rintro ⟨⟩)
  · exact answer (permits_failure error.replyStatus_not_carriedOut)

theorem proceed {reply : Reply} (permits : request.Permits target server reply)
    (transfers : List Transfer) :
    request.Abides target server (Phase.proceed request.rpc reply transfers) := by
  cases transfers with
  | nil => exact answer permits
  | cons transfer rest =>
    cases transfer with
    | refuse cause => exact fail _
    | stop cause => exact unreplied trivial nofun nofun
    | push region writes => exact unreplied ⟨rfl, permits⟩ (by rintro _ ⟨⟩) (by rintro ⟨⟩)

end Request.Abides

namespace Server

theorem failWith_abides (error : Error) (now : Server σ) :
    request.Abides target server (now.failWith request.rpc error).goes :=
  .fail error

/-- A call that runs an operation abides if what follows on an answer of the engine does. -/
theorem runFor_abides (id : DatabaseId) {operation : Operation}
    {next : operation.Answer → Phase × Option Frame} {now : Server σ}
    (follows : ∀ db answer, now.kept? target id = some db →
      (Engine.perform operation db.store).1 = .ok answer →
        request.Abides target server (next answer)) :
    request.Abides target server (now.runFor target id request.rpc operation next).goes := by
  rcases now.runFor_cases target id request.rpc operation next with
    ⟨-, -, gone⟩ | ⟨db, held, -, -, ⟨error, -, failed⟩ | ⟨answer, performed, answered⟩⟩
  · rw [gone]
    exact .answer (Request.permits_failure (by decide))
  · rw [failed]
    exact .fail error
  · rw [answered]
    apply follows db answer held
    simp only [Database.perform] at performed
    split at performed
    · cases performed
    · exact performed

theorem ofGet_permits {id : DatabaseId} {key : Bytes} {maxSize : UInt64} {found : Option Bytes}
    (held : ∀ value, found = some value → server.Finds target id key value) :
    Request.Permits target server (.get id key maxSize) (.ofGet found maxSize) := by
  cases found with
  | none => exact ⟨.of_other (by decide) 0, by rintro ⟨⟩, fun _ => rfl⟩
  | some value =>
    have holds := held value rfl
    simp only [Reply.ofGet]
    split
    · rename_i longer
      exact ⟨.of_truncated holds longer, by rintro ⟨⟩, fun _ => rfl⟩
    · rename_i within
      exact ⟨.of_whole holds maxSize.toNat_lt (Nat.not_lt.mp within), fun _ => holds,
        fun failed => absurd rfl failed⟩

theorem sendValue_abides {id : DatabaseId} {key : Bytes} {buffer : Descriptor}
    (counted : buffer.capacity < 2 ^ 64) (build : Build) {found : Option Bytes}
    (held : ∀ value, found = some value → server.Finds target id key value) :
    Request.Abides target server (.bulkGet id key buffer) (sendValue build buffer found) := by
  cases found with
  | none => exact .answer (.of_other (by decide) 0)
  | some value =>
    have holds := held value rfl
    obtain ⟨total, summed, counts⟩ := Descriptor.total_of_lt counted build
    simp only [sendValue, summed, counts]
    split
    · rename_i longer
      exact .answer (.of_truncated holds longer)
    · rename_i within
      have permits : Request.Permits target server (.bulkGet id key buffer)
          (.bulkGot .ok (UInt64.ofNat value.length)) :=
        Status.Measures.of_whole holds counted (Nat.not_lt.mp within)
      exact .proceed permits _

omit [Engine σ] in
theorem ofList_fits (truncated : Bool) {count limit : Nat} (small : limit < 2 ^ 64)
    (fits : count ≤ limit) :
    ∃ status size, Reply.ofList truncated count = .listed status size ∧
      status ∉ [.notFound, .policyViolation] ∧ size.toNat ≤ limit := by
  refine ⟨_, _, rfl, by cases truncated <;> decide, ?_⟩
  rw [UInt64.toNat_ofNat', Nat.mod_eq_of_lt (Nat.lt_of_le_of_lt fits small)]
  exact fits

/-- A call that is refused when its regions must not be written. -/
theorem checked_abides {id : DatabaseId} (regions : List Descriptor) {operation : Operation}
    {next : operation.Answer → Phase × Option Frame} {now : Server σ}
    (follows : ∀ db answer, now.kept? target id = some db →
      (Engine.perform operation db.store).1 = .ok answer →
        request.Abides target server (next answer)) :
    request.Abides target server (Turn.goes (match Descriptor.unwritable? regions with
      | some cause => now.failWith request.rpc (.invalidArgument cause)
      | none => now.runFor target id request.rpc operation next)) := by
  split
  · exact failWith_abides _ now
  · exact runFor_abides id follows

theorem begin_abides (paged : Engine.Paged σ) (bounded : request.Bounded) {id : DatabaseId}
    (named : request.database? = some id) {now : Server σ} (same : server.SameDatabases now) :
    request.Abides target server (now.begin target id request).goes := by
  have holds {key value : Bytes} {db : Database σ} (kept : now.kept? target id = some db)
      (found : (Engine.perform (.get key) db.store).1 = .ok (some value)) :
      server.Finds target id key value :=
    ⟨db, (same target id).symm.trans kept, found⟩
  cases request with
  | openName name => cases named
  | put _ key value =>
    refine runFor_abides id fun db stored _ _ => .answer ?_
    cases stored <;> simp [Reply.ofPut, Request.Permits]
  | bulkPut name key source =>
    obtain rfl := Option.some.inj named
    simp only [begin]
    split
    · exact .unreplied ⟨rfl, rfl⟩ (by rintro _ ⟨⟩) (by rintro ⟨⟩)
    · exact failWith_abides _ now
  | get name key maxSize =>
    obtain rfl := Option.some.inj named
    refine runFor_abides _ fun db found kept performed => .answer (ofGet_permits ?_)
    rintro value rfl
    exact holds kept performed
  | bulkGet name key buffer =>
    obtain rfl := Option.some.inj named
    refine checked_abides [buffer] fun db found kept performed => ?_
    refine sendValue_abides (bounded _ _ _ rfl) _ ?_
    rintro value rfl
    exact holds kept performed
  | erase _ key =>
    refine runFor_abides id fun db erased _ _ => .answer ?_
    cases erased <;> simp [Reply.ofErase, Request.Permits]
  | length _ key =>
    refine runFor_abides id fun db found _ _ => .answer ?_
    cases found <;> simp [Reply.ofLength, Reply.failure, Request.Permits]
  | listKeys _ start stem maxKeys keys keySizes =>
    refine checked_abides [keys, keySizes] fun db found _ listed => ?_
    have small := maxKeys.toNat_lt
    obtain ⟨status, size, told, fits⟩ :=
      ofList_fits (Bulk.exceedsSlots found keys.sizes) (by omega) (paged.keys _ _ _ _ _ listed)
    exact .proceed (told ▸ fits) _
  | listPairs _ start stem maxKeys keys keySizes values valueSizes =>
    refine checked_abides [keys, keySizes, values, valueSizes] fun db found _ listed => ?_
    have small := maxKeys.toNat_lt
    obtain ⟨status, size, told, fits⟩ :=
      ofList_fits (Bulk.exceedsSlots (found.map Entry.key) keys.sizes ||
        Bulk.exceedsSlots (found.map Entry.value) values.sizes) (by omega)
        (paged.pairs _ _ _ _ _ listed)
    exact .proceed (told ▸ fits) _

theorem dispatch_abides (paged : Engine.Paged σ) (bounded : request.Bounded) (target : UInt8)
    (server : Server σ) : request.Abides target server (server.dispatch target request).goes := by
  have failure {status : Status} (fault : status ∉ Status.carriedOut) (now : Server σ) :
      request.Abides target server
        (Turn.goes ⟨now, .idle, some (.reply (.failure request.rpc status))⟩) :=
    .answer (Request.permits_failure fault)
  simp only [dispatch]
  split
  · exact failure (by decide) server
  · rename_i provider known
    have counted := update_record known request.rpc
    split
    · split
      · exact .answer (iff_of_true rfl rfl)
      · exact failure (by decide) _
    · split
      · exact failure (by decide) _
      · rename_i id named
        exact begin_abides paged bounded (Option.filter_eq_some_iff.mp named).1 counted

theorem step_abides {phase : Phase} (underWay : phase.isOver = false)
    (promises : phase.Promises target server request) (reading : Reading) (now : Server σ) :
    request.Abides target server (now.step phase reading).goes := by
  cases phase with
  | idle => cases underWay
  | closed ending => cases underWay
  | panicked cause => cases underWay
  | pulling other id key source =>
    obtain ⟨rfl, rfl⟩ := promises
    simp only [step, stepPulling]
    split
    · split
      · refine runFor_abides id fun db stored _ _ => .answer ?_
        cases stored <;> simp [Reply.ofPut, Request.Permits]
      · exact failWith_abides _ now
    all_goals exact failWith_abides _ now
  | pushing rpc region rest reply =>
    obtain ⟨rfl, permits⟩ := promises
    simp only [step, stepPushing]
    split
    · exact .proceed permits rest
    all_goals exact failWith_abides _ now

end Server

/-- The reply that a frame is. -/
def Frame.reply? : Frame → Option Reply
  | .reply told => some told
  | _ => none

/-- A step that abides writes a reply that is permitted, or the call goes on, or the connection is
closed. -/
theorem Request.Abides.advance_cases {phase : Phase} {reading : Reading} {now : Server σ}
    (abides : request.Abides target server (now.step phase reading).goes) :
    (∃ reply, (now.step phase reading).written? = some (.reply reply) ∧
      request.Permits target server reply) ∨
    ((now.step phase reading).written?.bind Frame.reply? = none ∧
      ((Connection.advance phase reading now).phase.isClosed = true ∨
        ((Connection.advance phase reading now).phase.isOver = false ∧
          (Connection.advance phase reading now).phase.Promises target server request))) := by
  by_cases replied : ∃ reply, (now.step phase reading).written? = some (.reply reply)
  · obtain ⟨reply, wrote⟩ := replied
    exact .inl ⟨reply, wrote, abides.said reply (Turn.written?_eq_some.mp wrote).1⟩
  · right
    refine ⟨?_, ?_⟩
    · cases wrote : (now.step phase reading).written? with
      | none => rfl
      | some frame =>
        cases frame with
        | reply reply => exact absurd ⟨reply, wrote⟩ replied
        | _ => rfl
    · cases stands : (Connection.advance phase reading now).phase with
      | closed ending => exact .inl rfl
      | panicked cause => exact .inl rfl
      | pulling | pushing =>
        have underWay : (Connection.advance phase reading now).phase.isOver = false := by
          rw [stands]
          rfl
        have promises : (now.step phase reading).phase.Promises target server request :=
          abides.waits
        rw [Connection.advance_phase phase reading now underWay, stands] at promises
        exact .inr ⟨rfl, promises⟩
      | idle =>
        obtain ⟨idle, wrote⟩ := Connection.wrote_of_idle stands
        obtain ⟨reply, said⟩ := abides.replied idle
        exact absurd ⟨reply, wrote _ said⟩ replied

/-- Every reply in one call is permitted by the state of the server at its beginning. -/
theorem Connection.episode_permits (paged : Engine.Paged σ) (bounded : request.Bounded)
    (target : UInt8) (server : Server σ) (readings : List Reading) {reply : Reply}
    (replied : .reply reply ∈
      (episode .idle server (.ok (.request target request) :: readings)).said) :
    request.Permits target server reply := by
  have upholds {turn : Turn σ} (abides : request.Abides target server turn.goes) :
      turn.Upholds (fun phase _ => phase.Promises target server request)
        (fun frame => ∀ reply, frame = .reply reply → request.Permits target server reply) :=
    ⟨abides.waits, fun _ said reply same => abides.said reply (said.trans (congrArg some same))⟩
  have first : request.Abides target server
      (server.step .idle (.ok (.request target request))).goes :=
    Server.dispatch_abides paged bounded target server
  -- the permission speaks of the server at the beginning, so no later state of it matters
  have call := upholds_cons (upholds first) fun underWay =>
    upholds_of_steps
      (fun reading underWay promises => upholds (Server.step_abides underWay promises reading _))
      underWay first.waits readings
  exact call.said _ replied reply rfl

end Permits

namespace Switchboard

variable [Engine σ]

/-- The switchboard after these readings. -/
def afterAll (events : List (Nat × Reading)) (board : Switchboard σ) : Switchboard σ :=
  events.foldl (fun board event => board.after event.1 event.2) board

/-- The replies that are written when the lines read this. -/
def replies : List (Nat × Reading) → Switchboard σ → List Reply
  | [], _ => []
  | (line, reading) :: rest, board =>
    (board.turn line reading).reply?.toList ++ replies rest (board.after line reading)

/-- The call was read at its moment. -/
def Took (events : List (Nat × Reading)) (call : Begun) : Prop :=
  ∃ line, events[call.moment]? = some (line, .ok (.request call.target call.request))

/-- The server as it was when it took a call. -/
def serverAt (start : Switchboard σ) (events : List (Nat × Reading)) (call : Begun) : Server σ :=
  (start.afterAll (events.take call.moment)).server

/-- A reply to a call that was read, as the server could give it then. -/
structure Fits (start : Switchboard σ) (events : List (Nat × Reading)) (call : Begun)
    (reply : Reply) : Prop where
  took : Took events call
  permits : call.request.Permits call.target (start.serverAt events call) reply

/-- Each line under way is at a call that was read, and is going to give it a reply that fits. -/
def Faithful (board start : Switchboard σ) (events : List (Nat × Reading)) : Prop :=
  ∀ line, (board.lines line).isOver = false → ∃ call, board.calls line = some call ∧
    Took events call ∧
      (board.lines line).Promises call.target (start.serverAt events call) call.request

theorem afterAll_append (front back : List (Nat × Reading)) (board : Switchboard σ) :
    board.afterAll (front ++ back) = (board.afterAll front).afterAll back :=
  List.foldl_append

theorem moment_afterAll (events : List (Nat × Reading)) (board : Switchboard σ) :
    (board.afterAll events).moment = board.moment + events.length := by
  induction events generalizing board with
  | nil => rfl
  | cons event rest ih =>
    have later := ih (board.after event.1 event.2)
    have next : (board.after event.1 event.2).moment = board.moment + 1 := rfl
    rw [next] at later
    rw [List.length_cons, ← Nat.add_assoc, Nat.add_right_comm, ← later]
    rfl

variable {start board : Switchboard σ} {events : List (Nat × Reading)} {line : Nat}
  {reading : Reading}

/-- A step abides by what the call of its line permits, or it ends the connection and says
nothing. -/
theorem Faithful.turn_cases (faithful : board.Faithful start events) (paged : Engine.Paged σ)
    (bounded : ∀ event ∈ events, Reading.Bounded event.2)
    (here : events[board.moment]? = some (line, reading))
    (now : start.afterAll (events.take board.moment) = board) :
    (∃ call, board.call? line reading = some call ∧ Took events call ∧
      call.request.Abides call.target (start.serverAt events call)
        (board.turn line reading).goes) ∨
    ((board.turn line reading).said = none ∧ (board.turn line reading).phase.isOver = true) := by
  have underWay : (board.lines line).isOver = false → ∃ call,
      board.call? line reading = some call ∧ Took events call ∧
        call.request.Abides call.target (start.serverAt events call)
          (board.turn line reading).goes := by
    intro goesOn
    obtain ⟨call, took, read, promises⟩ := faithful line goesOn
    exact ⟨call, (call?_of_under_way goesOn).trans took, read,
      Server.step_abides goesOn promises reading board.server⟩
  cases stands : board.lines line with
  | pulling | pushing =>
    rw [stands] at underWay
    exact .inl (underWay rfl)
  | closed ending =>
    right
    rw [turn, stands]
    exact ⟨rfl, rfl⟩
  | panicked cause =>
    right
    rw [turn, stands]
    exact ⟨rfl, rfl⟩
  | idle =>
    simp only [turn, call?, stands, Server.step]
    cases reading with
    | error error =>
      right
      cases error with
      | stream fault => cases fault <;> exact ⟨rfl, rfl⟩
      | _ => exact ⟨rfl, rfl⟩
    | ok frame =>
      cases frame with
      | request target request =>
        left
        refine ⟨⟨board.moment, target, request⟩, rfl, ⟨line, here⟩, ?_⟩
        rw [serverAt, now]
        have fits := bounded _ (List.mem_of_getElem? here) target request rfl
        exact Server.dispatch_abides paged fits target board.server
      | _ => exact .inr ⟨rfl, rfl⟩

theorem Faithful.after (faithful : board.Faithful start events) (paged : Engine.Paged σ)
    (bounded : ∀ event ∈ events, Reading.Bounded event.2)
    (here : events[board.moment]? = some (line, reading))
    (now : start.afterAll (events.take board.moment) = board) :
    (board.after line reading).Faithful start events := by
  intro other underWay
  rcases line_after underWay with ⟨rfl, stands, took⟩ | ⟨stands, took⟩
  · rw [stands] at underWay ⊢
    rw [took]
    rcases faithful.turn_cases paged bounded here now with ⟨call, its, read, abides⟩ | ⟨-, ended⟩
    · exact ⟨call, its, read, abides.waits⟩
    · exact absurd (underWay.symm.trans ended) Bool.false_ne_true
  · rw [stands] at underWay ⊢
    rw [took]
    exact faithful other underWay

/-- What is written on a reading is answered to the call of its line, and fits it. -/
theorem Faithful.answered (faithful : board.Faithful start events) (paged : Engine.Paged σ)
    (bounded : ∀ event ∈ events, Reading.Bounded event.2)
    (here : events[board.moment]? = some (line, reading))
    (now : start.afterAll (events.take board.moment) = board) :
    (board.answered? line reading).map Answered.reply = (board.turn line reading).reply? ∧
      ∀ answered, board.answered? line reading = some answered →
        start.Fits events answered.toBegun answered.reply := by
  rcases faithful.turn_cases paged bounded here now with
    ⟨call, took, read, abides⟩ | ⟨silent, -⟩
  · refine ⟨by simp [answered?, took, Function.comp_def], ?_⟩
    intro answered found
    obtain ⟨its, said, -⟩ := answered?_eq_some found
    obtain rfl := Option.some.inj (took.symm.trans its)
    exact ⟨read, abides.said _ said⟩
  · have unsaid : (board.turn line reading).reply? = none := by simp [Turn.reply?, silent]
    simp [answered?, unsaid]

/-- All replies are to calls that were read, and fit them. -/
theorem Faithful.run (paged : Engine.Paged σ) (fresh : start.moment = 0)
    (bounded : ∀ event ∈ events, Reading.Bounded event.2)
    {done todo : List (Nat × Reading)} (whole : events = done ++ todo)
    (faithful : (start.afterAll done).Faithful start events) :
    ((start.afterAll done).run todo).map Answered.reply = (start.afterAll done).replies todo ∧
      ∀ answered ∈ (start.afterAll done).run todo,
        start.Fits events answered.toBegun answered.reply := by
  -- the readings done are as many as the moment, which is where a call of now stands among them
  induction todo generalizing done with
  | nil => simp [Switchboard.run, replies]
  | cons event rest ih =>
    obtain ⟨line, reading⟩ := event
    have moment : (start.afterAll done).moment = done.length := by
      rw [moment_afterAll, fresh, Nat.zero_add]
    have here : events[(start.afterAll done).moment]? = some (line, reading) := by
      rw [moment, whole]
      simp
    have now : start.afterAll (events.take (start.afterAll done).moment) = start.afterAll done := by
      rw [moment, whole, List.take_left]
    have next : start.afterAll (done ++ [(line, reading)]) =
        (start.afterAll done).after line reading := afterAll_append ..
    have later := faithful.after paged bounded here now
    rw [← next] at later
    obtain ⟨same, others⟩ := ih (by rw [whole, List.append_assoc]; rfl) later
    rw [next] at same others
    obtain ⟨written, fits⟩ := faithful.answered paged bounded here now
    refine ⟨?_, ?_⟩
    · rw [Switchboard.run, replies, List.map_append, same, ← written, Option.toList_map]
    · intro answered member
      rcases List.mem_append.mp member with now | later
      · exact fits answered (Option.mem_toList.mp now)
      · exact others answered later

/-- What is written on one of the lines when they read this. -/
def written (line : Nat) : List (Nat × Reading) → Switchboard σ → List Frame
  | [], _ => []
  | (place, reading) :: rest, board =>
    (if place = line then (board.turn place reading).written?.toList else []) ++
      written line rest (board.after place reading)

theorem written_closed (closed : (board.lines line).isClosed = true)
    (events : List (Nat × Reading)) : board.written line events = [] := by
  induction events generalizing board with
  | nil => rfl
  | cons event rest ih =>
    obtain ⟨place, reading⟩ := event
    rw [written]
    by_cases same : place = line
    · subst same
      obtain ⟨stays, silent, -⟩ := Connection.advance_closed closed reading board.server
      have still : ((board.after place reading).lines place).isClosed = true := by
        simpa only [after, Function.update_self, stays] using closed
      rw [if_pos rfl, turn, silent, ih still]
      rfl
    · have still : ((board.after place reading).lines line).isClosed = true := by
        simpa only [after, Function.update_of_ne (Ne.symm same)] using closed
      rw [if_neg same, ih still]
      rfl

section First

variable {target : UInt8} {request : Request} {server : Server σ} {reply : Reply}

/-- The first reply that is written on a line from a step of a call on, when those after the step
are permitted. -/
theorem first_reply_of_abides
    (abides : request.Abides target server (board.turn line reading).goes)
    (later : ((board.after line reading).lines line).isOver = false →
      ((board.after line reading).lines line).Promises target server request →
      ((board.after line reading).written line events).findSome? Frame.reply? = some reply →
      request.Permits target server reply)
    (first : (board.written line ((line, reading) :: events)).findSome? Frame.reply? =
      some reply) :
    request.Permits target server reply := by
  have stands : (board.after line reading).lines line =
      (Connection.advance (board.lines line) reading board.server).phase := by
    simp only [after, Function.update_self]
  rw [written, if_pos rfl, List.findSome?_append] at first
  rcases abides.advance_cases with ⟨other, wrote, permits⟩ | ⟨unsaid, closed | ⟨underWay, promises⟩⟩
  · have said : (board.turn line reading).written? = some (.reply other) := wrote
    rw [said] at first
    obtain rfl : other = reply := Option.some.inj first
    exact permits
  all_goals
    have skipped : (board.turn line reading).written?.toList.findSome? Frame.reply? = none := by
      cases wrote : (board.turn line reading).written? with
      | none => rfl
      | some frame =>
        have silent : frame.reply? = none := by
          have unsaid : (board.turn line reading).written?.bind Frame.reply? = none := unsaid
          rwa [wrote] at unsaid
        simp [silent]
    rw [skipped, Option.none_or] at first
  · rw [written_closed (stands ▸ closed)] at first
    cases first
  · rw [stands] at later
    exact later underWay promises first

/-- The first reply on a line under way is to the call it is at: whatever is read there and
elsewhere, the call keeps its promise until it is over. -/
theorem first_reply_under_way (underWay : (board.lines line).isOver = false)
    (promises : (board.lines line).Promises target server request)
    (first : (board.written line events).findSome? Frame.reply? = some reply) :
    request.Permits target server reply := by
  induction events generalizing board with
  | nil => cases first
  | cons event rest ih =>
    obtain ⟨place, reading⟩ := event
    by_cases same : place = line
    · subst same
      exact first_reply_of_abides (Server.step_abides underWay promises reading board.server) ih
        first
    · have still : (board.after place reading).lines line = board.lines line := by
        simp only [after, Function.update_of_ne (Ne.symm same)]
      rw [written, if_neg same, List.nil_append] at first
      rw [← still] at underWay promises
      exact ih underWay promises first

/-- The first reply on a line from a request on is one the server could give to the request when it
came, whatever is read there and on the other lines meanwhile. -/
theorem first_reply_permits (paged : Engine.Paged σ) (bounded : request.Bounded)
    (idle : board.lines line = .idle)
    (first : (board.written line ((line, .ok (.request target request)) :: events)).findSome?
      Frame.reply? = some reply) :
    request.Permits target board.server reply := by
  refine first_reply_of_abides ?_ first_reply_under_way first
  rw [turn, idle]
  exact Server.dispatch_abides paged bounded target board.server

end First

/-- Whatever the lines of a server read, and in which order, every reply that is written is to a
call that was read, and is one the server could give to it then. -/
theorem run_fits (paged : Engine.Paged σ) (server : Server σ) {events : List (Nat × Reading)}
    (bounded : ∀ event ∈ events, Reading.Bounded event.2) :
    ((ofServer server).run events).map Answered.reply = (ofServer server).replies events ∧
      ∀ answered ∈ (ofServer server).run events,
        (ofServer server).Fits events answered.toBegun answered.reply := by
  refine Faithful.run paged rfl bounded (List.nil_append events).symm ?_
  intro line underWay
  have ended : (server.settle .idle).isOver = true := server.isOver_settle .idle
  exact absurd (underWay.symm.trans ended) Bool.false_ne_true

end Switchboard

end KeyDepot
