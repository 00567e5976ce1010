import KeyDepot.Client.Basic
import KeyDepot.Wire.Framing

/-!
The caller's side of one call. From its request to its reply a caller answers whatever the other
side asks of its regions, frame by frame, and trusts nothing it is told. What the other side does is
given as the readings it causes.
-/

namespace KeyDepot

/-- What a caller does about a frame. -/
inductive Reaction where
  /-- The call is over. -/
  | finish (result : Except Error Reply)
  /-- Answers, and waits for the next frame. -/
  | answer (frame : Frame) (bytes : Bytes)
  deriving Inhabited

namespace Reaction

/-- Says a frame; one that cannot be written ends the call. -/
def say (frame : Frame) : Reaction :=
  match frame.encode with
  | .ok bytes => answer frame bytes
  | .error error => finish (.error error)

end Reaction

namespace Regions

/-- The answer to a frame that asks something of the regions, with the regions after it; none for a
frame that asks nothing of them. -/
def answer? (frame : Frame) (regions : Regions) : Option (Frame × Regions) :=
  match frame with
  | .bulkPull region =>
    match regions.pull region with
    | .ok segments => some (.bulkData segments, regions)
    | .error error => some (.bulkDenied error.message, regions)
  | .bulkPush region writes =>
    match regions.push region writes with
    | .ok regions => some (.bulkAck, regions)
    | .error error => some (.bulkDenied error.message, regions)
  | _ => none

/-- Reacts to a frame from `peer`, or to the failure to read one. -/
def react (peer : String) (reading : Reading) (regions : Regions) : Reaction × Regions :=
  match reading with
  | .ok (.reply reply) => (.finish (.ok reply), regions)
  | .ok frame =>
    match regions.answer? frame with
    | some (answer, regions) => (.say answer, regions)
    | none => (.finish (.error (.protocol (.unexpectedFrom frame.kind peer))), regions)
  | .error (.stream fault) => (.finish (.error (.transport (.stream peer fault))), regions)
  | .error error => (.finish (.error error), regions)

end Regions

/-- The course of a conversation: how it ended, if it did, the regions after it, what the caller
said in order, and the readings it did not come to. -/
structure Exchange where
  result : Option (Except Error Reply)
  regions : Regions
  said : List Frame
  left : List Reading
  deriving Inhabited

/-- Answers one reading after the other until the call is over, or no more come. -/
def converse (peer : String) : List Reading → Regions → Exchange
  | [], regions => ⟨none, regions, [], []⟩
  | reading :: rest, regions =>
    match regions.react peer reading with
    | (.finish result, regions) => ⟨some result, regions, [], rest⟩
    | (.answer frame _, regions) =>
      let later := converse peer rest regions
      { later with said := frame :: later.said }

/-- How a call may fare: there is no way to the other side, or the other side causes these readings
and is silent after them. -/
inductive Encounter where
  | unreachable (fault : StreamFault)
  | readings (readings : List Reading)
  deriving Inhabited

/-- A call that has returned: the client after it, the frames it sent in order, and, when its
connection can be used again, the readings still on it. -/
structure Visit (call : Call) where
  returned : Returned call
  client : Client
  said : List Frame := []
  left : Option (List Reading) := none

/-- How a call fares: it returns, it waits for ever, or it panics and leaves this behind. -/
inductive Fate (α σ : Type) where
  | returned (visit : α)
  | waits
  | panicked (cause : Panic) (after : σ)
  deriving Inhabited

namespace Fate

variable {α β σ τ : Type}

/-- What a call that returns comes back with. -/
def returned? : Fate α σ → Option α
  | returned visit => some visit
  | _ => none

theorem returned?_eq_some {fate : Fate α σ} {visit : α} :
    fate.returned? = some visit ↔ fate = returned visit := by
  cases fate <;> simp [returned?]

/-- The same fate, seen from further outside. -/
def map (visited : α → β) (left : σ → τ) : Fate α σ → Fate β τ
  | returned visit => returned (visited visit)
  | waits => waits
  | panicked cause after => panicked cause (left after)

end Fate

namespace Client

/-- The failure of a call that waits for a frame in vain; none when it waits for ever. -/
def silence? (peer : String) (client : Client) : Option Error :=
  if client.settings.callTimeout = 0 then none
  else some (.transport (.noReply peer client.settings.callTimeout))

/-- Sends a request and converses until there is a result. -/
def exchange (target : UInt8) (request : Request) (peer : String) (encounter : Encounter)
    (client : Client) : Exchange :=
  match encounter with
  | .unreachable fault =>
    ⟨some (.error (.transport (.stream peer fault))), client.regions, [], []⟩
  | .readings readings =>
    let opening := Frame.request target request
    match opening.encode with
    | .error error => ⟨some (.error error), client.regions, [], []⟩
    | .ok _ =>
      let course := converse peer readings client.regions
      { course with said := opening :: course.said }

/-- Makes a call on the provider `target` of a peer. -/
def fate (call : Call) (target : UInt8) (peer : String) (encounter : Encounter)
    (client : Client) : Fate (Visit call) Client :=
  match call.misuse? with
  | some cause => .returned ⟨⟨.error (.invalidArgument cause), call.slots⟩, client, [], none⟩
  | none =>
    match client.stage call with
    | .error cause => .panicked cause client
    | .ok (staged, client) =>
      let course := client.exchange target staged.request peer encounter
      match course.result <|> (client.silence? peer).map .error with
      | none => .waits
      | some result =>
        match { client with regions := course.regions }.conclude call staged.regions result with
        | (.error cause, client) => .panicked cause client
        | (.ok returned, client) =>
          let left := match course.result with
            | some (.ok _) => some course.left
            | _ => none
          .returned { returned, client, said := course.said, left }

/-- A call that returns; none when it waits for ever or panics. -/
def call (call : Call) (target : UInt8) (peer : String) (encounter : Encounter)
    (client : Client) : Option (Visit call) :=
  (client.fate call target peer encounter).returned?

end Client

end KeyDepot
