import KeyDepot.Client.Conversation
import KeyDepot.Deployment.Line

namespace KeyDepot

/-- What the network between a caller and a server does during one call. -/
inductive Network where
  | steady
  /-- There is no way to the server. -/
  | unreachable (fault : StreamFault)
  /-- After `frames` frames from the server nothing comes through any more. -/
  | cut (frames : Nat) (fault : TransportFault)
  deriving DecidableEq, Repr, Inhabited

/-- A client with its idle lines to a server at an address. -/
structure Caller where
  client : Client := {}
  peer : String := ""
  idle : List Line := []
  deriving Inhabited

/-- A conversation over a line, and where it leaves its parties. -/
structure Discourse (σ : Type) where
  result : Option (Except Error Reply)
  regions : Regions
  line : Line
  server : Server σ

variable {σ : Type} [Engine σ]

/-- Answers the server until the call is over, for at most `patience` frames. -/
def Line.discuss (peer : String) (patience : Nat) (regions : Regions) (line : Line)
    (server : Server σ) : Discourse σ :=
  match patience with
  | 0 => ⟨none, regions, line, server⟩
  | patience + 1 =>
    match line.next? with
    | none => ⟨none, regions, line, server⟩
    | some (reading, line) =>
      match regions.react peer reading with
      | (.finish result, regions) => ⟨some result, regions, line, server⟩
      | (.answer _ bytes, regions) =>
        let (line, server) := line.send bytes server
        Line.discuss peer patience regions line server

/-- A bound on the frames a server's end still writes in a call that is under way, and one more for
its end. -/
def Phase.outstanding : Phase → Nat
  | .pushing _ _ rest _ => rest.length + 3
  | _ => 3

namespace Network

/-- The frames the caller gets to read, when the server's end is in this phase. -/
def patience (phase : Phase) : Network → Nat
  | .cut frames _ => frames
  | _ => phase.outstanding

/-- Why nothing more comes, when the network is to blame. -/
def cause? (peer : String) : Network → Option TransportFault
  | .steady => none
  | .unreachable fault => some (.stream peer fault)
  | .cut _ fault => some fault

end Network

namespace Caller

/-- A call that has returned, and where it leaves its parties. -/
structure Visited (call : Call) (σ : Type) where
  returned : Returned call
  caller : Caller
  server : Server σ

/-- An idle line, or a new one. A server that has stopped cannot be reached. -/
def checkout (network : Network) (active : Nat) (caller : Caller) (server : Server σ) :
    Except TransportFault (Line × Caller) :=
  match caller.idle with
  | line :: idle => .ok (line, { caller with idle })
  | [] =>
    match network with
    | .unreachable fault => .error (.stream caller.peer fault)
    | _ =>
      if server.stopped then .error (.stream caller.peer .refused)
      else .ok (Line.connect active server, caller)

/-- Sends a request and converses until there is a result. The line is kept after a reply and
dropped otherwise. -/
def exchange (network : Network) (active : Nat) (target : UInt8) (request : Request)
    (caller : Caller) (server : Server σ) :
    Option (Except Error Reply) × Caller × Server σ :=
  match caller.checkout network active server with
  | .error fault => (some (.error (.transport fault)), caller, server)
  | .ok (line, caller) =>
    match (Frame.request target request).encode with
    | .error error => (some (.error error), caller, (line.finish server).2)
    | .ok bytes =>
      let (line, server) := line.send bytes server
      let course := line.discuss caller.peer (network.patience line.far.phase)
        caller.client.regions server
      let caller := { caller with client := { caller.client with regions := course.regions } }
      match course.result with
      | some (.ok reply) =>
        (some (.ok reply), { caller with idle := course.line :: caller.idle }, course.server)
      | some (.error error) => (some (.error error), caller, (course.line.finish course.server).2)
      | none =>
        let cause := (network.cause? caller.peer).map Error.transport <|>
          caller.client.silence? caller.peer
        (cause.map .error, caller, (course.line.finish course.server).2)

/-- Makes a call on the provider `target`, while `active` lines are open to the server. -/
def fate (network : Network) (active : Nat) (target : UInt8) (call : Call) (caller : Caller)
    (server : Server σ) : Fate (Visited call σ) (Caller × Server σ) :=
  match call.misuse? with
  | some cause => .returned ⟨⟨.error (.invalidArgument cause), call.slots⟩, caller, server⟩
  | none =>
    match caller.client.stage call with
    | .error cause => .panicked cause (caller, server)
    | .ok (staged, client) =>
      match { caller with client }.exchange network active target staged.request server with
      | (none, _, _) => .waits
      | (some result, caller, server) =>
        match caller.client.conclude call staged.regions result with
        | (.error cause, client) => .panicked cause ({ caller with client }, server)
        | (.ok returned, client) => .returned ⟨returned, { caller with client }, server⟩

/-- A call that returns; none when it waits for ever or panics. -/
def call (network : Network) (active : Nat) (target : UInt8) (call : Call) (caller : Caller)
    (server : Server σ) : Option (Visited call σ) :=
  (caller.fate network active target call server).returned?

/-- Asks the server to stop, over a line that is dropped afterwards. -/
def shutdown (network : Network) (active : Nat) (caller : Caller) (server : Server σ) :
    Except Error Unit × Caller × Server σ :=
  match caller.checkout network active server with
  | .error fault => (.error (.transport fault), caller, server)
  | .ok (line, caller) =>
    match Frame.shutdown.encode with
    | .error error => (.error error, caller, (line.finish server).2)
    | .ok bytes =>
      let (line, server) := line.send bytes server
      (.ok (), caller, (line.finish server).2)

/-- The server may have been told to stop since. -/
def notice (server : Server σ) (caller : Caller) : Caller :=
  { caller with idle := caller.idle.map (Line.notice server) }

/-- The idle lines the server still serves. -/
def openLines (caller : Caller) : Nat :=
  (caller.idle.filter fun line => !line.far.phase.isClosed).length

end Caller

end KeyDepot
