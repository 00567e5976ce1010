import KeyDepot.Proofs.Answering
import KeyDepot.Proofs.Dialogue
import KeyDepot.Proofs.Episodes
import KeyDepot.Proofs.Talk

/-! The idle lines of a caller between two calls. Nothing is on its way on any of them, and at the
far end no call is under way; so the reply a call reads is the one the server gives to that call. -/

namespace KeyDepot

variable {σ : Type}

theorem Phase.isClosed_of_under_way {phase : Phase} (underWay : phase.isOver = false) :
    phase.isClosed = false := by
  cases phase <;> trivial

namespace Line

/-- Nothing is on its way in either direction, and the server waits for a call or has closed its
end. -/
structure Rests (line : Line) : Prop where
  settled : line.far.phase.isOver = true
  received : line.far.tail = []
  unread : line.unread = []
  unended : line.ended = false

theorem rests_quiet {phase : Phase} (settled : phase.isOver = true) : (quiet phase).Rests :=
  ⟨settled, rfl, rfl, rfl⟩

theorem Rests.eq_quiet {line : Line} (rests : line.Rests) :
    ∃ phase, phase.isOver = true ∧ line = quiet phase := by
  obtain ⟨⟨phase, tail⟩, unread, ended⟩ := line
  obtain ⟨settled, rfl, rfl, rfl⟩ := rests
  exact ⟨phase, settled, rfl⟩

theorem Rests.notice {line : Line} (rests : line.Rests) (server : Server σ) :
    (line.notice server).Rests :=
  ⟨(server.isOver_settle _).trans rests.settled, rests.received, rests.unread, rests.unended⟩

theorem Rests.expire {line : Line} (rests : line.Rests) : line.expire.Rests := by
  obtain ⟨phase, settled, rfl⟩ := rests.eq_quiet
  simp only [Line.expire, Connection.expire]
  split
  · exact rests_quiet rfl
  · exact rests_quiet settled

variable [Engine σ]

omit [Engine σ] in
theorem rests_connect (active : Nat) (server : Server σ) : (connect active server).Rests := by
  simp only [connect]
  split
  · exact rests_quiet (server.isOver_settle .idle)
  · exact rests_quiet rfl

omit [Engine σ] in
theorem after_said {turn : Turn σ} {frame : Frame} (said : turn.said = some frame)
    (writable : frame.Writable) :
    after turn = { quiet (turn.server.settle turn.phase) with unread := frame.form } := by
  simp [after, Connection.write, said, Frame.encode_of_writable writable, quiet]

omit [Engine σ] in
/-- A turn that says a frame too large, or nothing because the call is given up, ends the stream. -/
theorem after_ended {turn : Turn σ} (fails : (∃ frame, turn.said = some frame ∧ ¬ frame.Writable) ∨
    (turn.phase.isClosed = true ∧ turn.said = none)) :
    ∃ phase : Phase, phase.isClosed = true ∧ after turn = quiet phase := by
  rcases fails with ⟨frame, said, large⟩ | ⟨closed, silent⟩
  · refine ⟨.closed (.error (.protocol (.payloadTooLarge frame.payloadSize))), rfl, ?_⟩
    simp only [after, Connection.write, said, Frame.encode_of_not_writable large, quiet]
    rw [Server.settle_closed rfl]
  · refine ⟨turn.phase, closed, ?_⟩
    simp only [after, Connection.write, silent, Server.settle_closed closed, quiet]

theorem discuss_closed {phase : Phase} (closed : phase.isClosed = true) (peer : String)
    (patience : Nat) (regions : Regions) (server : Server σ) (reply : Reply) :
    ((quiet phase).discuss peer patience regions server).result ≠ some (.ok reply) := by
  intro replied
  cases patience with
  | zero => cases replied
  | succ patience =>
    simp only [discuss, next?_closed closed, Regions.react] at replied
    cases replied

end Line

/-- How a turn of a call leaves the connection: it has answered, or it has asked for something and
waits for what a caller can answer to that, or it is given up. -/
theorem Turn.Stands.said_cases {turn : Turn σ} {bound : Nat} (stands : turn.Stands bound) :
    (∃ reply, turn.phase = .idle ∧ turn.said = some (.reply reply)) ∨
    (∃ ask, turn.said = some ask ∧ ask.isReply = false ∧ turn.phase.isOver = false ∧
      ∀ regions answer after, Regions.answer? ask regions = some (answer, after) →
        turn.phase.Awaits answer) ∨
    (turn.phase.isClosed = true ∧ turn.said = none) := by
  cases stands with
  | answered reply idle said => exact .inl ⟨reply, idle, said⟩
  | broken error closed silent breaks => exact .inr (.inr ⟨by rw [closed]; rfl, silent⟩)
  | panicked cause stopped silent => exact .inr (.inr ⟨by rw [stopped]; rfl, silent⟩)
  | pulls waits said =>
    refine .inr (.inl ⟨_, said, rfl, by rw [waits]; rfl, ?_⟩)
    intro regions answer after answered
    rw [waits]
    simp only [Regions.answer?] at answered
    split at answered <;> obtain ⟨rfl, -⟩ := Prod.mk.inj (Option.some.inj answered) <;> trivial
  | pushes waits said few =>
    refine .inr (.inl ⟨_, said, rfl, by rw [waits]; rfl, ?_⟩)
    intro regions answer after answered
    rw [waits]
    simp only [Regions.answer?] at answered
    split at answered <;> obtain ⟨rfl, -⟩ := Prod.mk.inj (Option.some.inj answered) <;> trivial

variable [Engine σ]

/-- A call on both sides: the server asks for what it needs, the caller answers from its regions,
and the server gives this reply and says nothing after it. -/
def Server.Replies (target : UInt8) (request : Request) (peer : String) (regions : Regions)
    (reply : Reply) (server after : Server σ) : Prop :=
  ∃ (asks answers : List Frame) (left : Phase) (changed : Regions),
    (∀ ask ∈ asks, ask.isReply = false) ∧
    Connection.episode .idle server (.ok (.request target request) :: answers.map .ok) =
      ⟨after, left, asks ++ [.reply reply], []⟩ ∧
    converse peer ((asks ++ [Frame.reply reply]).map .ok) regions =
      ⟨some (.ok reply), changed, answers, []⟩

namespace Line

open Connection (episode advance)

/-- A conversation that comes to a reply has seen the call to its end, and leaves the line at
rest. -/
theorem discuss_reply (peer : String) {patience : Nat} {phase : Phase} {reading : Reading}
    {server : Server σ} {bound : Nat} {regions : Regions} {reply : Reply}
    (stands : (server.step phase reading).Stands bound)
    (replied : ((after (server.step phase reading)).discuss peer patience regions
      (server.step phase reading).server).result = some (.ok reply)) :
    let course := (after (server.step phase reading)).discuss peer patience regions
      (server.step phase reading).server
    ∃ (asks answers : List Frame) (left : Phase), left.isOver = true ∧ course.line = quiet left ∧
      (∀ ask ∈ asks, ask.isReply = false) ∧
      episode phase server (reading :: answers.map .ok) =
        ⟨course.server, left, asks ++ [.reply reply], []⟩ ∧
      converse peer ((asks ++ [Frame.reply reply]).map .ok) regions =
        ⟨some (.ok reply), course.regions, answers, []⟩ := by
  induction patience generalizing phase reading server bound regions with
  | zero => cases replied
  | succ patience ih =>
    -- a stream that has ended brings no reply
    have lasts : ¬ ((∃ frame, (server.step phase reading).said = some frame ∧ ¬ frame.Writable) ∨
        ((server.step phase reading).phase.isClosed = true ∧
          (server.step phase reading).said = none)) := by
      intro fails
      obtain ⟨ending, closed, ended⟩ := after_ended fails
      rw [ended] at replied
      exact discuss_closed closed _ _ _ _ _ replied
    have fits : ∀ frame, (server.step phase reading).said = some frame → frame.Writable :=
      fun frame said => not_not.mp fun large => lasts (.inl ⟨frame, said, large⟩)
    rcases stands.said_cases with ⟨other, idle, said⟩ | ⟨ask, said, asks, underWay, awaits⟩ | gone
    · rw [after_said said (fits _ said)] at replied ⊢
      simp only [discuss, next?_form (fits _ said), Regions.react] at replied ⊢
      obtain rfl := Except.ok.inj (Option.some.inj replied)
      have settled : (server.step phase reading).phase.isOver = true := by rw [idle]; rfl
      have wrote := Turn.written?_eq_some.mpr ⟨said, fits _ said⟩
      refine ⟨[], [], _, (Server.isOver_settle ..).trans settled, rfl, by simp, ?_, rfl⟩
      rw [List.map_nil, Connection.episode_over settled, wrote]
      simp [advance, Connection.write, said, Frame.encode_of_writable (fits _ said)]
    · rw [after_said said (fits ask said), Server.settle_under_way underWay] at replied ⊢
      simp only [discuss, next?_form (fits ask said)] at replied ⊢
      rcases regions.react_cases peer (.ok ask) with
        ⟨asked, answer, changed, same, answered, writable, reacted⟩ | ⟨result, reacted, -, only⟩
      · obtain rfl := Except.ok.inj same
        have opened : (server.step phase reading).phase.isClosed = false :=
          Phase.isClosed_of_under_way underWay
        simp only [reacted, send_form writable opened] at replied ⊢
        obtain ⟨fewer, -, next⟩ := stands.step (awaits regions answer changed answered)
        obtain ⟨others, answers, left, settled, rests, silent, ends, talked⟩ := ih next replied
        refine ⟨ask :: others, answer :: answers, left, settled, rests,
          List.forall_mem_cons.mpr ⟨asks, silent⟩, ?_, ?_⟩
        · rw [List.map_cons, Connection.episode_asked said (fits ask said) underWay, ends]
          rfl
        · rw [List.cons_append, List.map_cons, converse, reacted]
          simp only [talked]
      · simp only [reacted] at replied
        obtain rfl := Option.some.inj replied
        obtain rfl := Except.ok.inj (only reply rfl)
        cases asks
    · exact absurd (.inr gone) lasts

end Line

/-- A request over a line at rest: the line is at rest after a reply, and that is the reply to this
request. -/
theorem Line.Rests.discuss {line : Line} (rests : line.Rests) (peer : String) (patience : Nat)
    {regions : Regions} {server : Server σ} {target : UInt8} {request : Request}
    (writable : (Frame.request target request).Writable) {reply : Reply} :
    let sent := line.send (Frame.request target request).form server
    let course := sent.1.discuss peer patience regions sent.2
    course.result = some (.ok reply) →
      course.line.Rests ∧ server.Replies target request peer regions reply course.server := by
  intro sent course replied
  obtain ⟨phase, settled, rfl⟩ := rests.eq_quiet
  cases phase with
  | idle =>
    have comes : sent = _ := Line.send_form writable rfl server
    simp only [course, comes] at replied ⊢
    obtain ⟨asks, answers, left, ends, still, silent, called, talked⟩ :=
      Line.discuss_reply peer (server.request_stands target request) replied
    rw [still]
    exact ⟨Line.rests_quiet ends, asks, answers, left, _, silent, called, talked⟩
  | closed | panicked =>
    exact absurd replied (Line.discuss_closed rfl peer patience regions server reply)
  | pulling | pushing => cases settled

theorem Client.conclude_reads (call : Call) (regions : List UInt64) (result : Except Error Reply)
    (client : Client) :
    ∃ segments, (client.conclude call regions result).1 = call.conclude segments result := by
  refine ⟨(client.withdraw regions).1.map fun region => region.map Buffer.bytes, ?_⟩
  simp only [conclude]
  split <;> rename_i same <;> exact same.symm

namespace Caller

/-- All idle lines are at rest. -/
def Rests (caller : Caller) : Prop := ∀ line ∈ caller.idle, line.Rests

variable {caller : Caller} {server : Server σ}

omit [Engine σ] in
theorem checkout_rests (rests : caller.Rests) {network : Network} {active : Nat} {line : Line}
    {rest : Caller} (taken : caller.checkout network active server = .ok (line, rest)) :
    line.Rests ∧ rest.Rests ∧ rest.client = caller.client ∧ rest.peer = caller.peer := by
  simp only [checkout] at taken
  split at taken
  · rename_i first idle lines
    obtain ⟨rfl, rfl⟩ := Prod.mk.inj (Except.ok.inj taken)
    simp only [Rests, lines, List.forall_mem_cons] at rests
    exact ⟨rests.1, rests.2, rfl, rfl⟩
  · split at taken
    · cases taken
    · split at taken
      · cases taken
      · obtain ⟨rfl, rfl⟩ := Prod.mk.inj (Except.ok.inj taken)
        exact ⟨Line.rests_connect active server, rests, rfl, rfl⟩

/-- After an exchange the idle lines are at rest, and a reply is the one to the request. -/
theorem exchange_rests (rests : caller.Rests) (network : Network) (active : Nat) (target : UInt8)
    (request : Request) (server : Server σ) :
    let exchanged := caller.exchange network active target request server
    exchanged.2.1.Rests ∧ ∀ reply, exchanged.1 = some (.ok reply) →
      server.Replies target request caller.peer caller.client.regions reply exchanged.2.2 := by
  simp only [exchange]
  split
  · refine ⟨rests, ?_⟩
    rintro _ ⟨⟩
  · rename_i line rest taken
    obtain ⟨still, others, client, peer⟩ := checkout_rests rests taken
    rw [← client, ← peer]
    by_cases writable : (Frame.request target request).Writable
    · simp only [Frame.encode_of_writable writable]
      split
      · rename_i reply replied
        obtain ⟨again, replies⟩ := still.discuss rest.peer _ writable replied
        refine ⟨List.forall_mem_cons.mpr ⟨again, others⟩, ?_⟩
        rintro _ ⟨⟩
        exact replies
      · refine ⟨others, ?_⟩
        rintro _ ⟨⟩
      · refine ⟨others, ?_⟩
        intro reply failed
        obtain ⟨cause, -, wrong⟩ := Option.map_eq_some_iff.mp failed
        cases wrong
    · simp only [Frame.encode_of_not_writable writable]
      refine ⟨others, ?_⟩
      rintro _ ⟨⟩

/-- How a call fares: it is refused, or panics, before anything is sent, or it comes to what its
exchange comes to. -/
theorem fate_cases (network : Network) (active : Nat) (target : UInt8) (call : Call)
    (caller : Caller) (server : Server σ) :
    (∃ cause, call.misuse? = some cause ∧ caller.fate network active target call server =
      .returned ⟨⟨.error (.invalidArgument cause), call.slots⟩, caller, server⟩) ∨
    (∃ cause, caller.client.stage call = .error cause ∧
      caller.fate network active target call server = .panicked cause (caller, server)) ∨
    ∃ staged client, caller.client.stage call = .ok (staged, client) ∧
      let exchanged := { caller with client }.exchange network active target staged.request server
      (exchanged.1 = none ∧ caller.fate network active target call server = .waits) ∨
      ∃ result segments after, exchanged.1 = some result ∧ after.idle = exchanged.2.1.idle ∧
        caller.fate network active target call server =
          match call.conclude segments result with
          | .error cause => .panicked cause (after, exchanged.2.2)
          | .ok returned => .returned ⟨returned, after, exchanged.2.2⟩ := by
  simp only [fate]
  cases misused : call.misuse? with
  | some cause => exact .inl ⟨cause, rfl, rfl⟩
  | none =>
    right
    cases prepared : caller.client.stage call with
    | error cause => exact .inl ⟨cause, rfl, rfl⟩
    | ok made =>
      obtain ⟨staged, client⟩ := made
      refine .inr ⟨staged, client, rfl, ?_⟩
      simp only
      cases ({ caller with client } : Caller).exchange network active target staged.request
          server with
      | mk result rest =>
        obtain ⟨later, last⟩ := rest
        cases result with
        | none => exact .inl ⟨rfl, rfl⟩
        | some result =>
          obtain ⟨segments, read⟩ := later.client.conclude_reads call staged.regions result
          refine .inr ⟨result, segments,
            { later with client := (later.client.conclude call staged.regions result).2 }, rfl,
            rfl, ?_⟩
          rw [← read]
          simp only
          cases later.client.conclude call staged.regions result with
          | mk told client => cases told <;> rfl

/-- What a call leaves behind when it is over, whether it has returned or panicked. -/
theorem fate_rests (rests : caller.Rests) (network : Network) (active : Nat) (target : UInt8)
    (call : Call) (server : Server σ) :
    match caller.fate network active target call server with
    | .returned visit => visit.caller.Rests
    | .waits => True
    | .panicked _ after => after.1.Rests := by
  rcases fate_cases network active target call caller server with
    ⟨cause, -, fares⟩ | ⟨cause, -, fares⟩ | ⟨staged, client, -, ⟨-, fares⟩ |
      ⟨result, segments, after, -, idle, fares⟩⟩
  · rw [fares]
    exact rests
  · rw [fares]
    exact rests
  · rw [fares]
    trivial
  · have kept : ({ caller with client } : Caller).Rests := rests
    have rested : after.Rests := by
      rw [Rests, idle]
      exact (exchange_rests kept network active target _ server).1
    rw [fares]
    cases call.conclude segments result <;> exact rested

theorem shutdown_rests (rests : caller.Rests) (network : Network) (active : Nat)
    (server : Server σ) : (caller.shutdown network active server).2.1.Rests := by
  simp only [shutdown]
  split
  · exact rests
  · rename_i line rest taken
    have others := (checkout_rests rests taken).2.1
    split <;> exact others

end Caller

/-- What can happen around a caller. -/
inductive Happening (σ : Type) where
  /-- It makes a call, while so many lines are open to the server. -/
  | call (network : Network) (active : Nat) (target : UInt8) (call : Call)
  /-- It asks the server to stop. -/
  | shutdown (network : Network) (active : Nat)
  /-- Other callers have called the server meanwhile, or it was administered. -/
  | become (server : Server σ)
  /-- The server looks after its idle lines. -/
  | notice
  /-- An idle line has been idle for too long. -/
  | expire (place : Nat)

namespace Happening

/-- A caller and its server afterwards; none when a call waits for ever. -/
def after : Happening σ → Caller × Server σ → Option (Caller × Server σ)
  | call network active target made, (caller, server) =>
    match caller.fate network active target made server with
    | .returned visit => some (visit.caller, visit.server)
    | .waits => none
    | .panicked _ left => some left
  | shutdown network active, (caller, server) => some (caller.shutdown network active server).2
  | become changed, (caller, _) => some (caller, changed)
  | notice, (caller, server) => some (caller.notice server, server)
  | expire place, (caller, server) =>
    some ({ caller with idle := caller.idle.modify place Line.expire }, server)

/-- A caller and its server after all that has happened, one thing after the other. -/
def run (happenings : List (Happening σ)) (state : Caller × Server σ) :
    Option (Caller × Server σ) :=
  happenings.foldlM (fun state happening => happening.after state) state

theorem after_rests {happening : Happening σ} {state later : Caller × Server σ}
    (rests : state.1.Rests) (came : happening.after state = some later) : later.1.Rests := by
  obtain ⟨caller, server⟩ := state
  cases happening with
  | call network active target made =>
    have rested := Caller.fate_rests rests network active target made server
    simp only [after] at came
    split at came <;> rename_i fares <;> rw [fares] at rested
    · obtain rfl := Option.some.inj came
      exact rested
    · cases came
    · obtain rfl := Option.some.inj came
      exact rested
  | shutdown network active =>
    obtain rfl := Option.some.inj came
    exact Caller.shutdown_rests rests network active server
  | become changed =>
    obtain rfl := Option.some.inj came
    exact rests
  | notice =>
    obtain rfl := Option.some.inj came
    exact List.forall_mem_map.mpr fun line member => (rests line member).notice server
  | expire place =>
    obtain rfl := Option.some.inj came
    intro line member
    obtain ⟨number, there⟩ := List.getElem?_of_mem member
    rw [List.getElem?_modify] at there
    obtain ⟨before, held, rfl⟩ := Option.map_eq_some_iff.mp there
    have rested := rests before (List.mem_of_getElem? held)
    split
    · exact rested.expire
    · exact rested

theorem run_rests {happenings : List (Happening σ)} {state later : Caller × Server σ}
    (rests : state.1.Rests) (came : run happenings state = some later) : later.1.Rests := by
  induction happenings generalizing state with
  | nil =>
    obtain rfl := Option.some.inj came
    exact rests
  | cons happening rest ih =>
    obtain ⟨next, first, others⟩ := Option.bind_eq_some_iff.mp came
    exact ih (after_rests rests first) others

/-- Whatever has happened to a caller whose lines are all its own, its idle lines are at rest. The
next call that is sent returns what it reads from a reply only if the server gives that reply to the
request of this call. -/
theorem replies_belong_to_calls {caller : Caller} (unused : caller.idle = []) {server : Server σ}
    {happenings : List (Happening σ)} {state : Caller × Server σ}
    (came : run happenings (caller, server) = some state) :
    (∀ line ∈ state.1.idle, line.Rests) ∧
      ∀ network active target call visit,
        state.1.call network active target call state.2 = some visit →
        (∃ cause, call.misuse? = some cause ∧
          visit.returned = ⟨.error (.invalidArgument cause), call.slots⟩) ∨
        ∃ staged client result segments, state.1.client.stage call = .ok (staged, client) ∧
          ({ state.1 with client }.exchange network active target staged.request state.2).1 =
            some result ∧
          call.conclude segments result = .ok visit.returned ∧
          ∀ reply, result = .ok reply →
            state.2.Replies target staged.request state.1.peer client.regions reply
              visit.server := by
  have rests : state.1.Rests := run_rests (by simp [Caller.Rests, unused]) came
  refine ⟨rests, ?_⟩
  intro network active target call visit visited
  have returned := Fate.returned?_eq_some.mp visited
  rcases Caller.fate_cases network active target call state.1 state.2 with
    ⟨cause, misused, fares⟩ | ⟨cause, -, fares⟩ | ⟨staged, client, prepared, ⟨-, fares⟩ |
      ⟨result, segments, after, exchanged, -, fares⟩⟩ <;> rw [returned] at fares
  · obtain rfl := Fate.returned.inj fares
    exact .inl ⟨cause, misused, rfl⟩
  · cases fares
  · cases fares
  · cases read : call.conclude segments result with
    | error cause =>
      rw [read] at fares
      cases fares
    | ok told =>
      rw [read] at fares
      obtain rfl := Fate.returned.inj fares
      refine .inr ⟨staged, client, result, segments, prepared, exchanged, read, ?_⟩
      rintro reply rfl
      have kept : ({ state.1 with client } : Caller).Rests := rests
      exact (Caller.exchange_rests kept network active target _ state.2).2 reply exchanged

/-- A get that is answered; one that panics, and one whose reply is lost; a listing whose slots are
too short; and then another get. -/
theorem replies_belong_to_calls_after_loss :
    let store : MapStore := { options := {}, entries := [⟨[7], [5]⟩, ⟨[7, 8], [6, 6]⟩] }
    let get (key : Bytes) : Call := .get ⟨1⟩ key 10
    let happenings : List (Happening Store) :=
      [.call .steady 0 1 (get [7]), .expire 0, .call .steady 1 1 (get [7]), .notice,
        .call .steady 1 1 (.get ⟨1⟩ [7] (2 ^ 63)),
        .call (.cut 0 (.stream "" .earlyEnd)) 0 1 (get [7]),
        .call .steady 0 1 (.listKeys ⟨1⟩ [] [] [[0], [0]])]
    ∃ state visit staged client reply,
      run happenings ({}, .ofEngine (Store.map store)) = some state ∧
      (∀ line ∈ state.1.idle, line.Rests) ∧
      state.1.call .steady 1 1 (get [7, 8]) state.2 = some visit ∧
      visit.returned.outcome = .ok (some [6, 6]) ∧
      state.1.client.stage (get [7, 8]) = .ok (staged, client) ∧
      state.2.Replies 1 staged.request state.1.peer client.regions reply visit.server := by
  intro store get happenings
  have outcome : ((run happenings ({}, .ofEngine (Store.map store))).bind fun state =>
      state.1.call .steady 1 1 (get [7, 8]) state.2).map (fun visit => visit.returned.outcome) =
        some (.ok (some [6, 6])) := by decide +kernel
  obtain ⟨visit, ran, told⟩ := Option.map_eq_some_iff.mp outcome
  obtain ⟨state, came, visited⟩ := Option.bind_eq_some_iff.mp ran
  obtain ⟨rests, calls⟩ := replies_belong_to_calls rfl came
  obtain ⟨cause, misused, -⟩ |
      ⟨staged, client, result, segments, prepared, -, concluded, replies⟩ :=
    calls _ _ _ _ visit visited
  · cases misused
  · cases result with
    | error error =>
      rw [← Except.ok.inj concluded] at told
      cases told
    | ok reply =>
      exact ⟨state, visit, staged, client, reply, came, rests, visited, told, prepared,
        replies reply rfl⟩

end Happening

end KeyDepot
