import KeyDepot.Bulk.Layout
import KeyDepot.Service.Server
import KeyDepot.Wire.Framing

/-!
The server's side of one connection. Between frames all that is left of a call is where it waits:
for the contents of a region of the caller, or for the caller to confirm a push. Everything a
connection does is one step: it reads a frame, or fails to, and says at most one frame.
-/

namespace KeyDepot

/-- One more thing to do before a call is answered. -/
inductive Transfer where
  /-- Write into a region of the caller. -/
  | push (region : UInt64) (writes : List SegmentWrite)
  /-- Give up, because the regions of the caller do not suffice. -/
  | refuse (cause : Misuse)
  /-- Go no further, because the sizes of a region have no sum. -/
  | stop (cause : Panic)
  deriving DecidableEq, Repr, Inhabited

/-- Where a connection stands. -/
inductive Phase where
  /-- Waiting for a call. -/
  | idle
  /-- Waiting for the contents of a region, which are the value to put under the key. -/
  | pulling (target : UInt8) (db : DatabaseId) (key : Bytes) (source : Descriptor)
  /-- Waiting for a push into a region to be confirmed; what is left to do, and the reply after
  it. -/
  | pushing (rpc : Rpc) (region : UInt64) (rest : List Transfer) (reply : Reply)
  | closed (ending : Except Error Unit)
  /-- Closed in the middle of a call, with nothing more said. -/
  | panicked (cause : Panic)
  deriving Inhabited

/-- The state after a step, and what the connection says. -/
structure Turn (σ : Type) where
  server : Server σ
  phase : Phase
  said : Option Frame := none

namespace Phase

/-- Whether the connection is closed. -/
def isClosed : Phase → Bool
  | closed _ | panicked _ => true
  | _ => false

def isIdle : Phase → Bool
  | idle => true
  | _ => false

/-- Answers the call. -/
def answer (reply : Reply) : Phase × Option Frame :=
  (idle, some (.reply reply))

/-- Ends a call that failed: with an empty reply, or with the connection itself when that cannot go
on. -/
def fail (rpc : Rpc) (error : Error) : Phase × Option Frame :=
  if error.breaksConnection then (closed (.error error), none)
  else answer (.failure rpc error.replyStatus)

/-- Goes on with the transfers of a call. -/
def proceed (rpc : Rpc) (reply : Reply) : List Transfer → Phase × Option Frame
  | [] => answer reply
  | .push region writes :: rest => (pushing rpc region rest reply, some (.bulkPush region writes))
  | .refuse cause :: _ => fail rpc (.invalidArgument cause)
  | .stop cause :: _ => (panicked cause, none)

end Phase

namespace Transfer

/-- Packs the lengths of the items into a region of the caller. -/
def lengths (build : Build) (region : Descriptor) (items : List Bytes) : List Transfer :=
  let packed := Bulk.packLengths items
  if packed.isEmpty then []
  else
    match region.total build with
    | .error cause => [.stop cause]
    | .ok total =>
      if total.toNat < packed.length then
        [.refuse (.sizesOverflow region.region total.toNat packed.length)]
      else [.push region.region (Bulk.scatter packed region.sizes)]

/-- Puts each item into its segment. -/
def slots (region : Descriptor) (items : List Bytes) : List Transfer :=
  if items.isEmpty then [] else [.push region.region (Bulk.slotWrites items)]

end Transfer

namespace Reply

/-- The reply to a put. -/
def ofPut (stored : Bool) : Reply :=
  ack (if stored then .ok else .policyViolation)

/-- The reply to an erase. -/
def ofErase (erased : Bool) : Reply :=
  ack (if erased then .ok else .notFound)

/-- The reply to a get of at most `maxSize` bytes. -/
def ofGet (found : Option Bytes) (maxSize : UInt64) : Reply :=
  match found with
  | none => failure .get .notFound
  | some value =>
    if maxSize.toNat < value.length then got .truncated [] (UInt64.ofNat value.length)
    else got .ok value (UInt64.ofNat value.length)

def ofLength (found : Option Bytes) : Reply :=
  match found with
  | none => failure .length .notFound
  | some value => length .ok (UInt64.ofNat value.length)

def ofList (truncated : Bool) (count : Nat) : Reply :=
  listed (if truncated then .truncated else .ok) (UInt64.ofNat count)

end Reply

namespace Descriptor

/-- The first of the regions that may not be pushed into, as the reason to refuse a call. -/
def unwritable? (regions : List Descriptor) : Option Misuse :=
  (regions.find? fun region => !region.access.writable).map fun region =>
    .unwritable region.region

end Descriptor

namespace Server

variable {σ : Type} [Engine σ]

/-- Runs an operation for a call on an open database, and goes on with its answer. An engine ends
every operation it is given, so there always is one. -/
def runFor (target : UInt8) (db : DatabaseId) (rpc : Rpc) (operation : Operation)
    (next : operation.Answer → Phase × Option Frame) (server : Server σ) : Turn σ :=
  match server.perform? target db operation with
  | none =>
    let (phase, said) := Phase.answer (.failure rpc .unknownDatabase)
    { server, phase, said }
  | some (.error error, server) =>
    let (phase, said) := Phase.fail rpc error
    { server, phase, said }
  | some (.ok answer, server) =>
    let (phase, said) := next answer
    { server, phase, said }

/-- Ends a call before its operation is run. -/
def failWith (rpc : Rpc) (error : Error) (server : Server σ) : Turn σ :=
  let (phase, said) := Phase.fail rpc error
  { server, phase, said }

/-- What follows on the value for a bulk get. -/
def sendValue (build : Build) (buffer : Descriptor) : Option Bytes → Phase × Option Frame
  | none => Phase.answer (.failure .bulkGet .notFound)
  | some value =>
    let size := UInt64.ofNat value.length
    match buffer.total build with
    | .error cause => (.panicked cause, none)
    | .ok total =>
      if total.toNat < value.length then Phase.answer (.bulkGot .truncated size)
      else
        Phase.proceed .bulkGet (.bulkGot .ok size)
          [.push buffer.region (Bulk.scatter value buffer.sizes)]

/-- What follows on the keys for a listing: their lengths, and the keys themselves unless one is
too long for its segment. -/
def sendKeys (build : Build) (keys keySizes : Descriptor) (found : List Bytes) :
    Phase × Option Frame :=
  let truncated := Bulk.exceedsSlots found keys.sizes
  let items := if truncated then [] else Transfer.slots keys found
  Phase.proceed .listKeys (.ofList truncated found.length)
    (Transfer.lengths build keySizes found ++ items)

/-- What follows on the entries for a listing with values. -/
def sendPairs (build : Build) (keys keySizes values valueSizes : Descriptor)
    (found : List Entry) : Phase × Option Frame :=
  let foundKeys := found.map Entry.key
  let foundValues := found.map Entry.value
  let truncated :=
    Bulk.exceedsSlots foundKeys keys.sizes || Bulk.exceedsSlots foundValues values.sizes
  let items :=
    if truncated then [] else Transfer.slots keys foundKeys ++ Transfer.slots values foundValues
  Phase.proceed .listPairs (.ofList truncated found.length)
    (Transfer.lengths build keySizes foundKeys ++
      Transfer.lengths build valueSizes foundValues ++ items)

/-- Begins a call on the open database `db` of the provider `target`. -/
def begin (target : UInt8) (db : DatabaseId) (request : Request) (server : Server σ) : Turn σ :=
  let rpc := request.rpc
  match request with
  | .openName _ => server.failWith rpc (.invalidArgument (.told "no database"))
  | .put _ key value =>
    server.runFor target db rpc (.put key value) fun stored => Phase.answer (.ofPut stored)
  | .bulkPut _ key source =>
    if source.access.readable then
      { server, phase := .pulling target db key source, said := some (.bulkPull source.region) }
    else server.failWith rpc (.invalidArgument (.unreadable source.region))
  | .get _ key maxSize =>
    server.runFor target db rpc (.get key) fun found => Phase.answer (.ofGet found maxSize)
  | .bulkGet _ key buffer =>
    match Descriptor.unwritable? [buffer] with
    | some cause => server.failWith rpc (.invalidArgument cause)
    | none => server.runFor target db rpc (.get key) (sendValue server.build buffer)
  | .erase _ key =>
    server.runFor target db rpc (.erase key) fun erased => Phase.answer (.ofErase erased)
  | .length _ key =>
    server.runFor target db rpc (.get key) fun found => Phase.answer (.ofLength found)
  | .listKeys _ start stem maxKeys keys keySizes =>
    match Descriptor.unwritable? [keys, keySizes] with
    | some cause => server.failWith rpc (.invalidArgument cause)
    | none =>
      server.runFor target db rpc (.listKeys start (min maxKeys.toNat keys.count) stem)
        (sendKeys server.build keys keySizes)
  | .listPairs _ start stem maxKeys keys keySizes values valueSizes =>
    match Descriptor.unwritable? [keys, keySizes, values, valueSizes] with
    | some cause => server.failWith rpc (.invalidArgument cause)
    | none =>
      let count := min (min maxKeys.toNat keys.count) values.count
      server.runFor target db rpc (.listPairs start count stem)
        (sendPairs server.build keys keySizes values valueSizes)

/-- Takes a call: a provider that is there counts it, and answers for an open database only. -/
def dispatch (target : UInt8) (request : Request) (server : Server σ) : Turn σ :=
  let rpc := request.rpc
  let reply (server : Server σ) (reply : Reply) : Turn σ :=
    { server, phase := .idle, said := some (.reply reply) }
  match server.provider? target with
  | none => reply server (.failure rpc .unknownProvider)
  | some provider =>
    let server := server.update (provider.record rpc)
    match request with
    | .openName name =>
      match provider.registry.find? name with
      | some id => reply server (.opened .ok (some id))
      | none => reply server (.failure rpc .unknownDatabase)
    | request =>
      match request.database?.filter fun id => (provider.registry.get? id).isSome with
      | none => reply server (.failure rpc .unknownDatabase)
      | some id => server.begin target id request

/-- A frame read while no call is under way, or the failure to read one. -/
def stepIdle (reading : Reading) (server : Server σ) : Turn σ :=
  match reading with
  | .ok (.request target request) => server.dispatch target request
  | .ok .shutdown => { server := server.stop, phase := .closed (.ok ()) }
  | .ok frame => { server, phase := .closed (.error (.protocol (.outsideCall frame.kind))) }
  | .error (.stream .earlyEnd) => { server, phase := .closed (.ok ()) }
  | .error error => { server, phase := .closed (.error error) }

/-- The answer to a pull, or the failure to read one. -/
def stepPulling (target : UInt8) (db : DatabaseId) (key : Bytes) (source : Descriptor)
    (reading : Reading) (server : Server σ) : Turn σ :=
  match reading with
  | .ok (.bulkData segments) =>
    let delivered := segments.map List.length
    let promised := source.sizes.map UInt64.toNat
    if delivered = promised then
      server.runFor target db .bulkPut (.put key segments.flatten) fun stored =>
        Phase.answer (.ofPut stored)
    else
      server.failWith .bulkPut (.transport (.segmentSizes source.region delivered promised))
  | .ok (.bulkDenied reason) =>
    server.failWith .bulkPut (.transport (.pullDenied source.region reason))
  | .ok frame => server.failWith .bulkPut (.protocol (.dataExpected frame.kind))
  | .error error => server.failWith .bulkPut error

/-- The answer to a push, or the failure to read one. -/
def stepPushing (rpc : Rpc) (region : UInt64) (rest : List Transfer) (reply : Reply)
    (reading : Reading) (server : Server σ) : Turn σ :=
  match reading with
  | .ok .bulkAck =>
    let (phase, said) := Phase.proceed rpc reply rest
    { server, phase, said }
  | .ok (.bulkDenied reason) => server.failWith rpc (.transport (.pushDenied region reason))
  | .ok frame => server.failWith rpc (.protocol (.ackExpected frame.kind))
  | .error error => server.failWith rpc error

/-- One step of a connection. A closed connection reads nothing. -/
def step (phase : Phase) (reading : Reading) (server : Server σ) : Turn σ :=
  match phase with
  | .idle => server.stepIdle reading
  | .pulling target db key source => server.stepPulling target db key source reading
  | .pushing rpc region rest reply => server.stepPushing rpc region rest reply reading
  | .closed ending => { server, phase := .closed ending }
  | .panicked cause => { server, phase := .panicked cause }

/-- Closes an idle connection of a server that was told to stop. A call under way is finished
first. -/
def settle (phase : Phase) (server : Server σ) : Phase :=
  if server.stopped && phase.isIdle then .closed (.ok ()) else phase

end Server

/-- A connection as the server sees it: where it stands, and the bytes received of a frame that is
not complete. -/
structure Connection where
  phase : Phase := .idle
  tail : Bytes := []
  deriving Inhabited

/-- The state after some steps, and the bytes a connection has written. -/
structure Progress (σ : Type) where
  server : Server σ
  phase : Phase
  written : Bytes

namespace Connection

variable {σ : Type} [Engine σ]

/-- Writes what a step says. A frame that cannot be written closes the connection. -/
def write (turn : Turn σ) : Progress σ :=
  match turn.said with
  | none => ⟨turn.server, turn.phase, []⟩
  | some frame =>
    match frame.encode with
    | .ok bytes => ⟨turn.server, turn.phase, bytes⟩
    | .error error => ⟨turn.server, .closed (.error error), []⟩

/-- One step, up to the next wait. -/
def advance (phase : Phase) (reading : Reading) (server : Server σ) : Progress σ :=
  let progress := write (server.step phase reading)
  { progress with phase := progress.server.settle progress.phase }

/-- Steps through readings until they are used up or the connection is closed. -/
def run (phase : Phase) (server : Server σ) : List Reading → Progress σ
  | [] => ⟨server, phase, []⟩
  | reading :: rest =>
    if phase.isClosed then ⟨server, phase, []⟩
    else
      let first := advance phase reading server
      let others := run first.phase first.server rest
      { others with written := first.written ++ others.written }

/-- A new connection. -/
def accept (server : Server σ) : Connection :=
  { phase := server.settle .idle }

/-- Bytes arrive. -/
def receive (bytes : Bytes) (connection : Connection) (server : Server σ) :
    Connection × Progress σ :=
  let (readings, tail) := takeFrames (connection.tail ++ bytes)
  let progress := run connection.phase server readings
  ({ phase := progress.phase, tail }, progress)

/-- The other side ends its stream: the connection reads the end where a frame was due. -/
def finish (connection : Connection) (server : Server σ) : Connection × Progress σ :=
  let progress := run connection.phase server [.error (.stream .earlyEnd)]
  ({ phase := progress.phase }, progress)

/-- Nothing has come for as long as the server waits. Only an idle connection is closed by that. -/
def expire (connection : Connection) : Connection :=
  if connection.phase.isIdle then { phase := .closed (.ok ()) } else connection

/-- The server may have been told to stop since. -/
def notice (server : Server σ) (connection : Connection) : Connection :=
  { connection with phase := server.settle connection.phase }

end Connection

end KeyDepot
