import KeyDepot.Bulk.Region
import KeyDepot.Client.Call

namespace KeyDepot

structure Client where
  settings : Settings := {}
  regions : Regions := {}
  /-- The pools buffers come from, when there are any. -/
  pool : Option Pool := none
  deriving DecidableEq, Repr, Inhabited

/-- A call that is ready to be sent: its request, and the regions exposed for it. -/
structure Staged where
  request : Request
  regions : List UInt64
  deriving DecidableEq, Repr, Inhabited

namespace Client

/-- A client with full pools. -/
def create (settings : Settings) : Except Panic (Except Error Client) :=
  match settings.pool with
  | none => .ok (.ok { settings })
  | some sizing =>
    (Pool.create sizing).map fun made =>
      made.map fun pool => { settings, pool := some pool }

/-- A buffer of that many zero bytes. -/
def buffer (length : Nat) (client : Client) : Except Panic (Buffer × Client) :=
  match client.pool with
  | none => (Bytes.allocate length).map fun bytes => (Buffer.ofBytes bytes, client)
  | some pool =>
    (pool.acquire length).map fun (buffer, pool) => (buffer, { client with pool := some pool })

/-- Buffers of zero bytes of these lengths. -/
def buffers : List Nat → Client → Except Panic (List Buffer × Client)
  | [], client => .ok ([], client)
  | length :: rest, client => do
    let (buffer, client) ← client.buffer length
    let (others, client) ← buffers rest client
    return (buffer :: others, client)

/-- Gives buffers back to the pools. -/
def recycle (buffers : List Buffer) (client : Client) : Client :=
  { client with
    pool := client.pool.map fun pool =>
      buffers.foldl (fun pool buffer => pool.release buffer) pool }

def expose (segments : List Buffer) (access : Access) (client : Client) : Region × Client :=
  let (region, regions) := client.regions.expose segments access
  (region, { client with regions })

/-- Exposes fresh buffers of these lengths for the remote side to write into. -/
def exposeFresh (lengths : List Nat) (client : Client) : Except Panic (Region × Client) := do
  let (segments, client) ← client.buffers lengths
  return client.expose segments .writeOnly

/-- Exposes slots for items, and room for their packed lengths. -/
def exposeSlots (slots : List Bytes) (client : Client) :
    Except Panic (Region × Region × Client) := do
  let (items, client) ← client.exposeFresh (slots.map List.length)
  let (lengths, client) ← client.exposeFresh [slots.length * Bulk.lengthWidth]
  return (items, lengths, client)

/-- Exposes what a call needs, and states it as a request. -/
def stage (call : Call) (client : Client) : Except Panic (Staged × Client) :=
  match call with
  | .openName name => return (⟨.openName name, []⟩, client)
  | .put db key value =>
    match TransferMode.select key.length value.length client.settings.maxInline with
    | .inside => return (⟨.put db key value, []⟩, client)
    | .bulk => do
      let (buffer, client) ← client.buffer value.length
      let (region, client) := client.expose [{ buffer with bytes := value }] .readOnly
      return (⟨.bulkPut db key region.descriptor, [region.id]⟩, client)
  | .get db key maxSize =>
    match TransferMode.select key.length maxSize client.settings.maxInline with
    | .inside => return (⟨.get db key (UInt64.ofNat maxSize), []⟩, client)
    | .bulk => do
      let (region, client) ← client.exposeFresh [maxSize]
      return (⟨.bulkGet db key region.descriptor, [region.id]⟩, client)
  | .erase db key => return (⟨.erase db key, []⟩, client)
  | .length db key => return (⟨.length db key, []⟩, client)
  | .listKeys db start stem slots => do
    let (keys, keySizes, client) ← client.exposeSlots slots
    let request := .listKeys db start stem (UInt64.ofNat slots.length) keys.descriptor
      keySizes.descriptor
    return (⟨request, [keys.id, keySizes.id]⟩, client)
  | .listPairs db start stem slots valueSlots => do
    let (keys, keySizes, client) ← client.exposeSlots slots
    let (values, valueSizes, client) ← client.exposeSlots valueSlots
    let request := .listPairs db start stem (UInt64.ofNat slots.length) keys.descriptor
      keySizes.descriptor values.descriptor valueSizes.descriptor
    return (⟨request, [keys.id, keySizes.id, values.id, valueSizes.id]⟩, client)

/-- Takes back regions, and gives their segments. -/
def withdraw : List UInt64 → Client → List (List Buffer) × Client
  | [], client => ([], client)
  | id :: rest, client =>
    let (segments, regions) := client.regions.withdraw id
    let (others, client) := withdraw rest { client with regions }
    (segments :: others, client)

/-- Ends a call: takes back its regions, reads what came of it, and recycles the buffers. A panic
in the middle of that loses them. -/
def conclude (call : Call) (regions : List UInt64) (result : Except Error Reply)
    (client : Client) : Except Panic (Returned call) × Client :=
  let (segments, client) := client.withdraw regions
  match call.conclude (segments.map fun region => region.map Buffer.bytes) result with
  | .error cause => (.error cause, client)
  | .ok returned => (.ok returned, client.recycle segments.flatten)

end Client

end KeyDepot
