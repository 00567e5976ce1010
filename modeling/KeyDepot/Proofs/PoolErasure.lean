import KeyDepot.Proofs.Dialogue

/-! Pools do not show. A client with pools says and returns what it would say and return if each of
its buffers were a new one, so nothing that was ever in a buffer of the pools gets out of it. -/

namespace KeyDepot

/-- A new buffer with the same bytes. -/
def Buffer.bare (buffer : Buffer) : Buffer := .ofBytes buffer.bytes

namespace Region

/-- The region made of new buffers. -/
def bare (region : Region) : Region :=
  { region with segments := region.segments.map Buffer.bare }

variable {region : Region}

theorem contents_bare : region.bare.contents = region.contents := by
  simp [contents, bare, Function.comp_def, Buffer.bare, Buffer.ofBytes]

theorem descriptor_bare : region.bare.descriptor = region.descriptor := by
  simp only [descriptor, bare, List.map_map]
  rfl

theorem admits_bare : region.bare.admits = region.admits := by
  funext write
  simp only [admits, bare, List.getElem?_map]
  cases region.segments[write.index.toNat]? <;> rfl

theorem write_bare (segments : List Buffer) (written : SegmentWrite) :
    write (segments.map Buffer.bare) written = (write segments written).map Buffer.bare := by
  apply List.ext_getElem?
  intro index
  simp only [write, List.getElem?_map, List.getElem?_modify]
  split <;> cases segments[index]? <;> simp [Buffer.bare, Buffer.ofBytes]

theorem foldl_write_bare (segments : List Buffer) (writes : List SegmentWrite) :
    writes.foldl write (segments.map Buffer.bare) =
      (writes.foldl write segments).map Buffer.bare := by
  induction writes generalizing segments with
  | nil => rfl
  | cons first writes ih => rw [List.foldl_cons, List.foldl_cons, write_bare, ih]

theorem push_bare (writes : List SegmentWrite) :
    region.bare.push writes = (region.push writes).map bare := by
  rw [push, push, admits_bare]
  cases writes.forM region.admits with
  | error error => rfl
  | ok _ => exact congrArg Except.ok (congrArg (Region.mk _ _) (foldl_write_bare ..))

end Region

namespace Regions

/-- The regions made of new buffers. -/
def bare (regions : Regions) : Regions :=
  { regions with live := regions.live.map Region.bare }

variable {regions : Regions}

theorem find?_bare (id : UInt64) : regions.bare.find? id = (regions.find? id).map Region.bare := by
  rw [find?, bare, List.find?_map]
  rfl

theorem pull_bare (id : UInt64) : regions.bare.pull id = regions.pull id := by
  rw [pull, pull, find?_bare]
  cases regions.find? id with
  | none => rfl
  | some region =>
    have same := region.contents_bare
    simp only [Region.contents] at same
    simp only [Option.map_some, same]
    rfl

theorem push_bare (id : UInt64) (writes : List SegmentWrite) :
    regions.bare.push id writes = (regions.push id writes).map bare := by
  rw [push, push, find?_bare]
  cases regions.find? id with
  | none => rfl
  | some region =>
    simp only [Option.map_some, Region.push_bare]
    have access : region.bare.access = region.access := rfl
    rw [access]
    split
    · cases region.push writes with
      | error error => rfl
      | ok written =>
        refine congrArg Except.ok (congrArg (Regions.mk _) ?_)
        simp only [bare, List.map_map]
        apply List.map_congr_left
        intro other _
        simp only [Function.comp_apply]
        split <;> rename_i same <;> simp_all [Region.bare]
    · rfl

theorem answer?_bare (frame : Frame) :
    regions.bare.answer? frame = (regions.answer? frame).map (Prod.map id bare) := by
  cases frame with
  | bulkPull region =>
    simp only [answer?, pull_bare]
    cases regions.pull region <;> rfl
  | bulkPush region writes =>
    simp only [answer?, push_bare]
    cases regions.push region writes <;> rfl
  | _ => rfl

theorem react_bare (peer : String) (reading : Reading) :
    regions.bare.react peer reading = Prod.map id bare (regions.react peer reading) := by
  cases reading with
  | error error => cases error <;> rfl
  | ok frame =>
    cases frame with
    | reply reply => rfl
    | _ =>
      simp only [react, answer?_bare]
      generalize regions.answer? _ = answered
      cases answered <;> rfl

theorem withdraw_bare (id : UInt64) :
    regions.bare.withdraw id =
      Prod.map (List.map Buffer.bare) bare (regions.withdraw id) := by
  have left : regions.bare.revoke id = (regions.revoke id).bare := by
    simp only [revoke, bare, List.filter_map]
    rfl
  rw [withdraw, withdraw, find?_bare, left]
  cases regions.find? id <;> rfl

end Regions

/-- The course of the same conversation about new buffers. -/
def Exchange.bare (exchange : Exchange) : Exchange :=
  { exchange with regions := exchange.regions.bare }

theorem converse_bare (peer : String) (readings : List Reading) (regions : Regions) :
    converse peer readings regions.bare = (converse peer readings regions).bare := by
  induction readings generalizing regions with
  | nil => rfl
  | cons reading rest ih =>
    rw [converse, converse, Regions.react_bare]
    cases regions.react peer reading with
    | mk reaction after =>
      cases reaction with
      | finish result => rfl
      | answer frame bytes =>
        simp only [Prod.map, id_eq, ih]
        rfl

/-- The client without pools, and with new buffers in its regions. -/
def Client.bare (client : Client) : Client :=
  { client with regions := client.regions.bare, pool := none }

/-- The same outcome for a client without pools. -/
def Visit.bare {call : Call} (visit : Visit call) : Visit call :=
  { visit with client := visit.client.bare }

namespace Client

variable {client : Client}

theorem buffer_bare (client : Client) (length : Nat) :
    client.bare.buffer length = Prod.map Buffer.bare bare <$> client.buffer length := by
  rcases Nat.lt_or_ge Bytes.maxLength length with long | short
  · rw [client.buffer_of_lt long, client.bare.buffer_of_lt long]
    rfl
  · simp only [buffer, bare]
    cases client.pool with
    | none =>
      rw [Bytes.allocate_of_le short]
      rfl
    | some pool =>
      simp only [Bytes.allocate_of_le short, pool.acquire_of_le short]
      rfl

theorem buffers_bare (client : Client) (lengths : List Nat) :
    client.bare.buffers lengths =
      Prod.map (List.map Buffer.bare) bare <$> client.buffers lengths := by
  induction lengths generalizing client with
  | nil => rfl
  | cons length rest ih =>
    simp only [buffers, buffer_bare, ih, bind_map_left, map_bind, map_pure, Prod.map, List.map_cons]

theorem expose_bare (client : Client) (segments : List Buffer) (access : Access) :
    client.bare.expose (segments.map Buffer.bare) access =
      Prod.map Region.bare bare (client.expose segments access) := rfl

theorem exposeFresh_bare (client : Client) (lengths : List Nat) :
    client.bare.exposeFresh lengths =
      Prod.map Region.bare bare <$> client.exposeFresh lengths := by
  simp only [exposeFresh, buffers_bare, bind_map_left, map_bind, map_pure, Prod.map, expose_bare]

theorem exposeSlots_bare (client : Client) (slots : List Bytes) :
    client.bare.exposeSlots slots =
      Prod.map Region.bare (Prod.map Region.bare bare) <$> client.exposeSlots slots := by
  simp only [exposeSlots, exposeFresh_bare, bind_map_left, map_bind, map_pure, Prod.map]

theorem stage_bare (client : Client) (call : Call) :
    client.bare.stage call = Prod.map id bare <$> client.stage call := by
  have settings : client.bare.settings = client.settings := rfl
  cases call with
  | put db key value =>
    simp only [stage, settings]
    split
    · rfl
    · simp only [buffer_bare, bind_map_left, map_bind]
      cases taken : client.buffer value.length with
      | error cause => rfl
      | ok made =>
        obtain ⟨buffer, filled⟩ := made
        -- a buffer has the length of the value it is to hold, so that a new one has it too
        obtain ⟨-, zero, -⟩ := buffer_fresh taken
        have same : ({ buffer.bare with bytes := value } : Buffer) =
            Buffer.bare { buffer with bytes := value } := by
          simp only [Buffer.bare, Buffer.ofBytes, zero, Bytes.length_zeros]
        have exposed := filled.expose_bare [{ buffer with bytes := value }] .readOnly
        simp only [List.map_cons, List.map_nil] at exposed
        simp only [Prod.map, same, exposed, Region.descriptor_bare, bind, Except.bind]
        rfl
  | get db key maxSize =>
    simp only [stage, settings]
    split
    · rfl
    · simp only [exposeFresh_bare, bind_map_left, map_bind, map_pure, Prod.map,
        Region.descriptor_bare]
      rfl
  | listKeys db start stem slots =>
    simp only [stage, exposeSlots_bare, bind_map_left, map_bind, map_pure, Prod.map,
      Region.descriptor_bare]
    rfl
  | listPairs db start stem slots valueSlots =>
    simp only [stage, exposeSlots_bare, bind_map_left, map_bind, map_pure, Prod.map,
      Region.descriptor_bare]
    rfl
  | _ => rfl

theorem withdraw_bare (ids : List UInt64) (client : Client) :
    client.bare.withdraw ids =
      Prod.map (List.map (List.map Buffer.bare)) bare (client.withdraw ids) := by
  induction ids generalizing client with
  | nil => rfl
  | cons id rest ih =>
    have first : client.bare.regions.withdraw id =
        Prod.map (List.map Buffer.bare) Regions.bare (client.regions.withdraw id) :=
      client.regions.withdraw_bare id
    have later := ih { client with regions := (client.regions.withdraw id).2 }
    simp only [withdraw, first, Prod.map]
    exact congrArg (fun others : List (List Buffer) × Client =>
      ((client.regions.withdraw id).1.map Buffer.bare :: others.1, others.2)) later

theorem recycle_bare (buffers others : List Buffer) :
    client.bare.recycle others = (client.recycle buffers).bare := rfl

theorem conclude_bare (call : Call) (regions : List UInt64) (result : Except Error Reply)
    (client : Client) :
    client.bare.conclude call regions result =
      Prod.map id bare (client.conclude call regions result) := by
  have same : (fun region => region.map Buffer.bytes) ∘ List.map Buffer.bare =
      List.map Buffer.bytes := by
    funext region
    simp [Function.comp_def, Buffer.bare, Buffer.ofBytes]
  simp only [conclude, withdraw_bare, Prod.map, List.map_map, same, id_eq]
  cases call.conclude ((client.withdraw regions).1.map (List.map Buffer.bytes)) result with
  | error cause => rfl
  | ok returned => rw [recycle_bare (client.withdraw regions).1.flatten]

theorem exchange_bare (target : UInt8) (request : Request) (peer : String)
    (encounter : Encounter) :
    client.bare.exchange target request peer encounter =
      (client.exchange target request peer encounter).bare := by
  cases encounter with
  | unreachable fault => rfl
  | readings readings =>
    have regions : client.bare.regions = client.regions.bare := rfl
    simp only [exchange, regions, converse_bare]
    split <;> rfl

theorem fate_bare (client : Client) (call : Call) (target : UInt8) (peer : String)
    (encounter : Encounter) :
    client.bare.fate call target peer encounter =
      (client.fate call target peer encounter).map Visit.bare bare := by
  simp only [fate]
  cases call.misuse? with
  | some cause => rfl
  | none =>
    cases prepared : client.stage call with
    | error cause => simp only [stage_bare, prepared, Fate.map, Functor.map, Except.map]
    | ok made =>
      obtain ⟨staged, after⟩ := made
      simp only [stage_bare, prepared, Functor.map, Except.map, Prod.map, id_eq, exchange_bare]
      generalize after.exchange target staged.request peer encounter = course
      have told : course.bare.result = course.result := rfl
      have silence : after.bare.silence? peer = after.silence? peer := rfl
      simp only [told, silence]
      cases course.result <|> (after.silence? peer).map .error with
      | none => rfl
      | some result =>
        have ended := conclude_bare call staged.regions result
          { after with regions := course.regions }
        simp only [bare] at ended ⊢
        simp only [Exchange.bare, ended]
        cases ({ after with regions := course.regions } : Client).conclude call staged.regions
            result with
        | mk told client => cases told <;> rfl

/-- What the pools hold shows neither in what a client says during a call nor in how the call
fares. -/
theorem pools_hidden (client : Client) (pool : Option Pool) (call : Call) (target : UInt8)
    (peer : String) :
    let other : Client := { client with pool }
    (∀ readings, (other.course call target peer readings).said =
      (client.course call target peer readings).said) ∧
    ∀ encounter,
      (other.fate call target peer encounter).map Visit.returned (fun _ => ()) =
        (client.fate call target peer encounter).map Visit.returned fun _ => () := by
  intro other
  have same : other.bare = client.bare := rfl
  refine ⟨fun readings => ?_, fun encounter => ?_⟩
  · have said : ∀ client : Client, (client.bare.course call target peer readings).said =
        (client.course call target peer readings).said := by
      intro client
      rw [course, course, stage_bare]
      cases client.stage call with
      | error cause => rfl
      | ok made => exact (congrArg Exchange.said (exchange_bare ..)).trans rfl
    rw [← said other, ← said client, same]
  · have fares : ∀ client : Client,
        (client.bare.fate call target peer encounter).map Visit.returned (fun _ => ()) =
          (client.fate call target peer encounter).map Visit.returned fun _ => () := by
      intro client
      rw [fate_bare]
      cases client.fate call target peer encounter <;> rfl
    rw [← fares other, ← fares client, same]

end Client

end KeyDepot
