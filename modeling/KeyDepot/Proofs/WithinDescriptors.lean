import KeyDepot.Client.Conversation
import KeyDepot.Proofs.Episodes
import KeyDepot.Proofs.FrameDecoding
import KeyDepot.Proofs.FrameSize
import KeyDepot.Proofs.MapDatabase
import KeyDepot.Proofs.RegionAccess

/-! What a server asks of the regions of its caller. It pulls from the one region it may read and
pushes into those it may write, and every write stays within its segment, whatever the regions look
like, whatever the engine answers and whatever the caller says in between. -/

namespace KeyDepot

variable {σ : Type}

/-- No listing of the engine is longer than asked for. -/
structure Engine.Paged (σ : Type) [Engine σ] : Prop where
  keys : ∀ start count stem (store : σ) found,
    (Engine.perform (.listKeys start count stem) store).1 = .ok found → found.length ≤ count
  pairs : ∀ start count stem (store : σ) found,
    (Engine.perform (.listPairs start count stem) store).1 = .ok found → found.length ≤ count

theorem BrittleStore.guarded_eq_ok {α : Type} {key : Bytes} {run : MapStore → Outcome MapStore α}
    {store : BrittleStore} {answer : α} (ran : (store.guarded key run).1 = .ok answer) :
    (run store.map).1 = .ok answer := by
  simp only [guarded] at ran
  split at ran
  · cases ran
  · exact ran

theorem DurableStore.reading_eq_ok {α : Type} {read : Entries → α} {store : DurableStore Entries}
    {answer : α} (ran : (store.reading read).1 = .ok answer) : ∃ map, read map = answer := by
  simp only [reading, withMap] at ran
  split at ran
  · cases ran
  · exact ⟨_, Except.ok.inj ran⟩

theorem Store.paged : Engine.Paged Store where
  keys start count stem store found listed := by
    have short : ∀ map : MapStore,
        (MapStore.perform (.listKeys start count stem) map).1 = .ok found →
          found.length ≤ count := by
      rintro map ⟨⟩
      simpa using map.length_page_le start count stem
    cases store with
    | map store => exact short store listed
    | null store =>
      obtain rfl : [] = found := Except.ok.inj listed
      exact Nat.zero_le count
    | durable store =>
      obtain ⟨map, rfl⟩ := DurableStore.reading_eq_ok listed
      rw [List.length_map]
      exact PrefixScan.length_select_le ..
    | brittle store => exact short store.map (BrittleStore.guarded_eq_ok listed)
  pairs start count stem store found listed := by
    have short : ∀ map : MapStore,
        (MapStore.perform (.listPairs start count stem) map).1 = .ok found →
          found.length ≤ count := by
      rintro map ⟨⟩
      exact map.length_page_le start count stem
    cases store with
    | map store => exact short store listed
    | null store =>
      obtain rfl : [] = found := Except.ok.inj listed
      exact Nat.zero_le count
    | durable store =>
      obtain ⟨map, rfl⟩ := DurableStore.reading_eq_ok listed
      exact PrefixScan.length_select_le ..
    | brittle store => exact short store.map (BrittleStore.guarded_eq_ok listed)

namespace Descriptor

/-- The writes go to distinct segments of the region, and none is longer than its segment. -/
structure Covers (writes : List SegmentWrite) (region : Descriptor) : Prop where
  distinct : (writes.map SegmentWrite.index).Nodup
  within : ∀ write ∈ writes, ∃ size, region.sizes[write.index.toNat]? = some size ∧
    write.data.length ≤ size.toNat

variable {region : Descriptor} {writes : List SegmentWrite}

/-- Writes that are numbered in their order, each no longer than the segment of its number. -/
theorem covers_of_numbered (few : region.count ≤ 2 ^ 32)
    (numbered : ∀ place write, writes[place]? = some write → write.index = UInt32.ofNat place ∧
      ∃ size, region.sizes[place]? = some size ∧ write.data.length ≤ size.toNat) :
    region.Covers writes := by
  have width : ∀ place, place < region.count → (UInt32.ofNat place).toNat = place :=
    fun place inside => UInt32.toNat_ofNat_of_lt' (Nat.lt_of_lt_of_le inside few)
  have inside : ∀ place write, writes[place]? = some write → place < region.count := by
    intro place write there
    obtain ⟨-, size, held, -⟩ := numbered place write there
    exact (List.getElem?_eq_some_iff.mp held).1
  constructor
  · rw [List.Nodup, List.pairwise_map, List.pairwise_iff_getElem]
    intro first second left right before same
    have one := List.getElem?_eq_getElem left
    have other := List.getElem?_eq_getElem right
    rw [(numbered _ _ one).1, (numbered _ _ other).1] at same
    have equal := congrArg UInt32.toNat same
    rw [width _ (inside _ _ one), width _ (inside _ _ other)] at equal
    omega
  · intro write member
    obtain ⟨place, there⟩ := List.getElem?_of_mem member
    obtain ⟨index, size, held, short⟩ := numbered place write there
    rw [index, width place (inside place write there)]
    exact ⟨size, held, short⟩

theorem getElem?_scatterFrom {index : Nat} {data : Bytes} {sizes : List UInt64} {place : Nat}
    {write : SegmentWrite} (there : (Bulk.scatterFrom index data sizes)[place]? = some write) :
    write.index = UInt32.ofNat (index + place) ∧
      ∃ size, sizes[place]? = some size ∧ write.data.length ≤ size.toNat := by
  induction sizes generalizing index data place with
  | nil => simp [Bulk.scatterFrom] at there
  | cons size rest ih =>
    rw [Bulk.scatterFrom] at there
    split at there
    · simp at there
    · cases place with
      | zero =>
        obtain rfl := Option.some.inj there
        exact ⟨rfl, size, rfl, List.length_take_le ..⟩
      | succ place =>
        obtain ⟨named, held⟩ := ih there
        exact ⟨by rw [named, Nat.add_right_comm, Nat.add_assoc], held⟩

theorem covers_scatter (few : region.count ≤ 2 ^ 32) (data : Bytes) :
    region.Covers (Bulk.scatter data region.sizes) := by
  apply covers_of_numbered few
  intro place write there
  obtain ⟨index, held⟩ := getElem?_scatterFrom there
  exact ⟨by rw [index, Nat.zero_add], held⟩

theorem covers_slotWrites (few : region.count ≤ 2 ^ 32) {items : List Bytes}
    (room : items.length ≤ region.count) (fit : Bulk.exceedsSlots items region.sizes = false) :
    region.Covers (Bulk.slotWrites items) := by
  apply covers_of_numbered few
  intro place write there
  simp only [Bulk.slotWrites, List.getElem?_mapIdx, Option.map_eq_some_iff] at there
  obtain ⟨item, listed, rfl⟩ := there
  have inside := (List.getElem?_eq_some_iff.mp listed).1
  have segment : place < region.sizes.length := Nat.lt_of_lt_of_le inside room
  have held := List.getElem?_eq_getElem segment
  refine ⟨rfl, _, held, ?_⟩
  have paired : (item, region.sizes[place]) ∈ items.zip region.sizes := by
    refine @List.mem_of_getElem? _ _ place _ ?_
    rw [List.getElem?_zip_eq_some]
    exact ⟨listed, held⟩
  have short := List.any_eq_false.mp fit _ paired
  simpa using short

theorem Covers.accepted (covers : region.Covers writes) (writable : region.access.writable = true)
    {regions : Regions} {held : Region} (found : regions.find? region.region = some held)
    (same : held.descriptor = region) :
    ∃ after, regions.answer? (.bulkPush region.region writes) = some (.bulkAck, after) := by
  have fits : ∀ write ∈ writes, Region.Fits held.contents write := by
    intro write member
    obtain ⟨size, named, short⟩ := covers.within write member
    rw [← same, Region.descriptor_sizes, List.getElem?_map, Option.map_eq_some_iff] at named
    obtain ⟨segment, there, rfl⟩ := named
    have counted : (UInt64.ofNat segment.length).toNat ≤ segment.length := by
      rw [UInt64.toNat_ofNat']
      exact Nat.mod_le ..
    exact ⟨segment, there, short.trans counted⟩
  have granted : held.access.writable = true := by
    rw [← same] at writable
    exact writable
  obtain ⟨written, applied, -⟩ := Region.push_of_fits fits
  obtain ⟨after, pushed⟩ : ∃ after, regions.push region.region writes = .ok after := by
    simp [Regions.push, found, granted, applied]
  exact ⟨after, by simp only [Regions.answer?, pushed]⟩

end Descriptor

namespace Request

/-- The regions a call describes for the server to write into. -/
def targets : Request → List Descriptor
  | .bulkGet _ _ buffer => [buffer]
  | .listKeys _ _ _ _ keys keySizes => [keys, keySizes]
  | .listPairs _ _ _ _ keys keySizes values valueSizes => [keys, keySizes, values, valueSizes]
  | _ => []

theorem targets_of_plain {request : Request}
    (plain : request.rpc ∈ [.openName, .put, .get, .erase, .length]) : request.targets = [] := by
  cases request <;> first | rfl | simp [rpc] at plain

/-- Those of them that are for the packed lengths of items. -/
def sizeRegions : Request → List Descriptor
  | .listKeys _ _ _ _ _ keySizes => [keySizes]
  | .listPairs _ _ _ _ _ keySizes _ valueSizes => [keySizes, valueSizes]
  | _ => []

/-- The regions a call may be written into that is going to be answered with this status. -/
def reach (status : Status) (request : Request) : List Descriptor :=
  if status = .truncated then request.sizeRegions else request.targets

@[simp] theorem reach_truncated (request : Request) :
    request.reach .truncated = request.sizeRegions := rfl

@[simp] theorem reach_ok (request : Request) : request.reach .ok = request.targets := rfl

theorem sizeRegions_subset (request : Request) : request.sizeRegions ⊆ request.targets := by
  cases request <;> simp [sizeRegions, targets]

theorem reach_subset (status : Status) (request : Request) :
    request.reach status ⊆ request.targets := by
  simp only [reach]
  split
  · exact request.sizeRegions_subset
  · exact List.Subset.refl _

/-- A call that came in a frame describes no more segments than writes can name. -/
theorem count_le_of_writable {target : UInt8} {request : Request}
    (writable : (Frame.request target request).Writable) {region : Descriptor}
    (described : region ∈ request.targets) : region.count ≤ 2 ^ 32 := by
  have limit : maxPayload ≤ 2 ^ 32 := by decide
  rw [Frame.Writable] at writable
  cases request with
  | bulkGet db key buffer =>
    rw [Frame.payloadSize_bulkGet] at writable
    obtain rfl := List.mem_singleton.mp described
    omega
  | listKeys db start stem maxKeys keys keySizes =>
    rw [Frame.payloadSize_listKeys] at writable
    simp only [targets, List.mem_cons, List.not_mem_nil, or_false] at described
    rcases described with rfl | rfl <;> omega
  | listPairs db start stem maxKeys keys keySizes values valueSizes =>
    rw [Frame.payloadSize_listPairs] at writable
    simp only [targets, List.mem_cons, List.not_mem_nil, or_false] at described
    rcases described with rfl | rfl | rfl | rfl <;> omega
  | _ => cases described

end Request

namespace Frame

/-- A push that stays within one of these regions. -/
def PushesWithin (regions : List Descriptor) (region : UInt64) (writes : List SegmentWrite) :
    Prop :=
  ∃ buffer ∈ regions, buffer.access.writable = true ∧ buffer.region = region ∧
    buffer.Covers writes

theorem PushesWithin.mono {regions others : List Descriptor} {region : UInt64}
    {writes : List SegmentWrite} (within : PushesWithin regions region writes)
    (wider : regions ⊆ others) : PushesWithin others region writes := by
  obtain ⟨buffer, member, rest⟩ := within
  exact ⟨buffer, wider member, rest⟩

/-- What a server may say in a call. -/
def Permitted (request : Request) : Frame → Prop
  | .reply _ => True
  | .bulkPull region => ∃ db key source, request = .bulkPut db key source ∧
      source.access.readable = true ∧ source.region = region
  | .bulkPush region writes => PushesWithin request.targets region writes
  | _ => False

/-- What a server says once the engine has done its part of a call, which it is going to answer with
this status if nothing goes wrong. -/
def Keeps (request : Request) (status : Status) : Frame → Prop
  | .reply answer => answer.status = .truncated → status = .truncated
  | .bulkPush region writes => PushesWithin (request.reach status) region writes
  | _ => False

theorem Keeps.permitted {request : Request} {status : Status} {frame : Frame}
    (keeps : frame.Keeps request status) : frame.Permitted request := by
  cases frame with
  | reply reply => trivial
  | bulkPush region writes =>
    have within : PushesWithin (request.reach status) region writes := keeps
    exact within.mono (request.reach_subset status)
  | _ => cases keeps

end Frame

namespace Transfer

/-- A push that stays within one of these regions, or none. -/
def Within (regions : List Descriptor) : Transfer → Prop
  | .push region writes => Frame.PushesWithin regions region writes
  | .refuse _ | .stop _ => True

variable {region : Descriptor} {regions : List Descriptor}

theorem lengths_within (described : region ∈ regions) (writable : region.access.writable = true)
    (few : region.count ≤ 2 ^ 32) (build : Build) (items : List Bytes) :
    ∀ transfer ∈ lengths build region items, transfer.Within regions := by
  intro transfer member
  simp only [lengths] at member
  split at member
  · cases member
  · split at member
    · obtain rfl := List.mem_singleton.mp member
      trivial
    · split at member <;> obtain rfl := List.mem_singleton.mp member
      · trivial
      · exact ⟨region, described, writable, rfl, Descriptor.covers_scatter few _⟩

theorem slots_within (described : region ∈ regions) (writable : region.access.writable = true)
    (few : region.count ≤ 2 ^ 32) {items : List Bytes} (room : items.length ≤ region.count)
    (fit : Bulk.exceedsSlots items region.sizes = false) :
    ∀ transfer ∈ slots region items, transfer.Within regions := by
  intro transfer member
  simp only [slots] at member
  split at member
  · cases member
  · obtain rfl := List.mem_singleton.mp member
    exact ⟨region, described, writable, rfl,
      Descriptor.covers_slotWrites few room fit⟩

end Transfer

namespace Descriptor

theorem writable_of_unwritable? {regions : List Descriptor} (none : unwritable? regions = none) :
    ∀ region ∈ regions, region.access.writable = true := by
  intro region member
  have passed := List.find?_eq_none.mp (Option.map_eq_none_iff.mp none) region member
  simpa using passed

end Descriptor

namespace Phase

/-- What is left of a call stays within what it may still reach. -/
def Keeps (request : Request) (status : Status) : Phase → Prop
  | pushing _ _ rest reply => (Frame.reply reply).Keeps request status ∧
      ∀ transfer ∈ rest, transfer.Within (request.reach status)
  | _ => True

end Phase

/-- What is said, and what is going to be said, stays within what the call may reach. -/
structure Keeps (request : Request) (status : Status) (goes : Phase × Option Frame) : Prop where
  waits : goes.1.Keeps request status
  said : ∀ frame, goes.2 = some frame → frame.Keeps request status

namespace Keeps

variable {request : Request} {status : Status}

theorem upholds {turn : Turn σ} (keeps : Keeps request status turn.goes) :
    turn.Upholds (fun phase _ => phase.Keeps request status) (Frame.Keeps request status) :=
  ⟨keeps.waits, keeps.said⟩

theorem answer {reply : Reply} (fits : reply.status = .truncated → status = .truncated) :
    Keeps request status (Phase.answer reply) where
  waits := trivial
  said := by
    rintro _ ⟨⟩
    exact fits

theorem answers (request : Request) (reply : Reply) :
    ∃ status, Keeps request status (Phase.answer reply) :=
  ⟨reply.status, answer fun same => same⟩

theorem fail (rpc : Rpc) (error : Error) : Keeps request status (Phase.fail rpc error) := by
  by_cases breaks : error.breaksConnection = true
  · simp only [Phase.fail, breaks, if_true]
    refine ⟨trivial, ?_⟩
    rintro _ ⟨⟩
  · simp only [Phase.fail, breaks]
    apply answer
    rw [Reply.status_failure]
    intro cut
    cases error <;> cases cut

theorem proceed (rpc : Rpc) {reply : Reply} (fits : reply.status = .truncated → status = .truncated)
    {transfers : List Transfer}
    (within : ∀ transfer ∈ transfers, transfer.Within (request.reach status)) :
    Keeps request status (Phase.proceed rpc reply transfers) := by
  cases transfers with
  | nil => exact answer fits
  | cons transfer rest =>
    obtain ⟨first, others⟩ := List.forall_mem_cons.mp within
    cases transfer with
    | refuse cause => exact fail rpc _
    | stop cause => exact ⟨trivial, nofun⟩
    | push region writes =>
      refine ⟨⟨fits, others⟩, ?_⟩
      rintro _ ⟨⟩
      exact first

end Keeps

namespace Server

variable {request : Request} {status : Status}

theorem failWith_keeps (rpc : Rpc) (error : Error) (server : Server σ) :
    Keeps request status (server.failWith rpc error).goes :=
  .fail rpc error

variable [Engine σ]

/-- A call that runs an operation keeps to what follows on the answers of the engine. -/
theorem runFor_keeps (target : UInt8) (id : DatabaseId) (rpc : Rpc) {operation : Operation}
    {next : operation.Answer → Phase × Option Frame}
    (follows : ∀ (store : σ) answer, (Engine.perform operation store).1 = .ok answer →
      ∃ status, Keeps request status (next answer)) (server : Server σ) :
    ∃ status, Keeps request status (server.runFor target id rpc operation next).goes := by
  rcases server.runFor_cases target id rpc operation next with
    ⟨-, -, gone⟩ | ⟨db, -, -, -, ⟨error, -, failed⟩ | ⟨answer, performed, answered⟩⟩
  · rw [gone]
    exact ⟨.ok, .answer (by simp)⟩
  · rw [failed]
    exact ⟨.ok, .fail rpc error⟩
  · rw [answered]
    apply follows db.store
    simp only [Database.perform] at performed
    split at performed
    · cases performed
    · exact performed

omit [Engine σ] in
theorem sendValue_keeps {db : DatabaseId} {key : Bytes} {buffer : Descriptor}
    (writable : buffer.access.writable = true) (few : buffer.count ≤ 2 ^ 32) (build : Build)
    (found : Option Bytes) :
    ∃ status, Keeps (.bulkGet db key buffer) status (sendValue build buffer found) := by
  cases found with
  | none => exact ⟨.ok, .answer (by rintro ⟨⟩)⟩
  | some value =>
    simp only [sendValue]
    split
    · exact ⟨.ok, trivial, by rintro _ ⟨⟩⟩
    · split
      · exact ⟨.truncated, .answer fun _ => rfl⟩
      · refine ⟨.ok, .proceed _ (by rintro ⟨⟩) ?_⟩
        intro transfer member
        obtain rfl := List.mem_singleton.mp member
        exact ⟨buffer, List.mem_singleton_self _, writable, rfl, Descriptor.covers_scatter few _⟩

omit [Engine σ] in
theorem sendKeys_keeps {db : DatabaseId} {start stem : Bytes} {maxKeys : UInt64}
    {keys keySizes : Descriptor}
    (writable : ∀ region ∈ [keys, keySizes], region.access.writable = true)
    (few : ∀ region ∈ [keys, keySizes], region.count ≤ 2 ^ 32) (build : Build)
    {found : List Bytes} (room : found.length ≤ keys.count) :
    ∃ status, Keeps (.listKeys db start stem maxKeys keys keySizes) status
      (sendKeys build keys keySizes found) := by
  simp only [List.forall_mem_cons] at writable few
  obtain ⟨toKeys, toSizes, -⟩ := writable
  obtain ⟨fewKeys, fewSizes, -⟩ := few
  cases exceed : Bulk.exceedsSlots found keys.sizes with
  | true =>
    refine ⟨.truncated, ?_⟩
    simp only [sendKeys, exceed, if_true, List.append_nil]
    exact .proceed _ (fun _ => rfl)
      (Transfer.lengths_within (by simp [Request.sizeRegions]) toSizes fewSizes build found)
  | false =>
    refine ⟨.ok, ?_⟩
    simp only [sendKeys, exceed, Bool.false_eq_true, if_false]
    refine .proceed _ (by rintro ⟨⟩) (List.forall_mem_append.mpr ⟨?_, ?_⟩)
    · exact Transfer.lengths_within (by simp [Request.targets]) toSizes fewSizes build found
    · exact Transfer.slots_within (by simp [Request.targets]) toKeys fewKeys room exceed

omit [Engine σ] in
theorem sendPairs_keeps {db : DatabaseId} {start stem : Bytes} {maxKeys : UInt64}
    {keys keySizes values valueSizes : Descriptor}
    (writable : ∀ region ∈ [keys, keySizes, values, valueSizes], region.access.writable = true)
    (few : ∀ region ∈ [keys, keySizes, values, valueSizes], region.count ≤ 2 ^ 32)
    (build : Build) {found : List Entry} (room : found.length ≤ min keys.count values.count) :
    ∃ status, Keeps (.listPairs db start stem maxKeys keys keySizes values valueSizes) status
      (sendPairs build keys keySizes values valueSizes found) := by
  simp only [List.forall_mem_cons] at writable few
  obtain ⟨toKeys, toKeySizes, toValues, toValueSizes, -⟩ := writable
  obtain ⟨fewKeys, fewKeySizes, fewValues, fewValueSizes, -⟩ := few
  cases exceed : Bulk.exceedsSlots (found.map Entry.key) keys.sizes ||
      Bulk.exceedsSlots (found.map Entry.value) values.sizes with
  | true =>
    refine ⟨.truncated, ?_⟩
    simp only [sendPairs, exceed, if_true, List.append_nil]
    refine .proceed _ (fun _ => rfl) (List.forall_mem_append.mpr ⟨?_, ?_⟩)
    · exact Transfer.lengths_within (by simp [Request.sizeRegions]) toKeySizes fewKeySizes build _
    · exact Transfer.lengths_within (by simp [Request.sizeRegions]) toValueSizes fewValueSizes
        build _
  | false =>
    obtain ⟨fitKeys, fitValues⟩ := Bool.or_eq_false_iff.mp exceed
    refine ⟨.ok, ?_⟩
    simp only [sendPairs, exceed, Bool.false_eq_true, if_false]
    have keyRoom : (found.map Entry.key).length ≤ keys.count := by
      rw [List.length_map]
      omega
    have valueRoom : (found.map Entry.value).length ≤ values.count := by
      rw [List.length_map]
      omega
    refine .proceed _ (by rintro ⟨⟩) ?_
    simp only [List.forall_mem_append]
    refine ⟨⟨?_, ?_⟩, ?_, ?_⟩
    · exact Transfer.lengths_within (by simp [Request.targets]) toKeySizes fewKeySizes build _
    · exact Transfer.lengths_within (by simp [Request.targets]) toValueSizes fewValueSizes build _
    · exact Transfer.slots_within (by simp [Request.targets]) toKeys fewKeys keyRoom fitKeys
    · exact Transfer.slots_within (by simp [Request.targets]) toValues fewValues valueRoom fitValues

/-- How a call on an open database begins: it asks for the value to put, or it says nothing that it
may not. -/
theorem begin_keeps (paged : Engine.Paged σ) (target : UInt8) {id : DatabaseId}
    (named : request.database? = some id) (few : ∀ region ∈ request.targets, region.count ≤ 2 ^ 32)
    (server : Server σ) :
    (∃ db key source, request = .bulkPut db key source ∧ source.access.readable = true ∧
      server.begin target id request =
        ⟨server, .pulling target id key source, some (.bulkPull source.region)⟩) ∨
    ∃ status, Keeps request status (server.begin target id request).goes := by
  cases request with
  | openName name => cases named
  | put _ key value =>
    exact .inr (runFor_keeps target id _ (fun _ _ _ => Keeps.answers _ _) server)
  | get _ key maxSize =>
    exact .inr (runFor_keeps target id _ (fun _ _ _ => Keeps.answers _ _) server)
  | erase _ key =>
    exact .inr (runFor_keeps target id _ (fun _ _ _ => Keeps.answers _ _) server)
  | length _ key =>
    exact .inr (runFor_keeps target id _ (fun _ _ _ => Keeps.answers _ _) server)
  | bulkPut db key source =>
    by_cases readable : source.access.readable = true
    · exact .inl ⟨db, key, source, rfl, readable, by simp only [begin, readable, if_true]⟩
    · simp only [begin, readable, Bool.false_eq_true, if_false]
      exact .inr ⟨.ok, failWith_keeps ..⟩
  | bulkGet db key buffer =>
    right
    simp only [begin]
    split
    · exact ⟨.ok, failWith_keeps ..⟩
    · rename_i none
      have writable := Descriptor.writable_of_unwritable? none buffer (by simp)
      have room := few buffer (by simp [Request.targets])
      exact runFor_keeps target id _ (fun _ found _ => sendValue_keeps writable room _ found) server
  | listKeys db start stem maxKeys keys keySizes =>
    right
    simp only [begin]
    split
    · exact ⟨.ok, failWith_keeps ..⟩
    · rename_i none
      refine runFor_keeps target id _ (fun store found listed => ?_) server
      have room := paged.keys _ _ _ _ _ listed
      exact sendKeys_keeps (Descriptor.writable_of_unwritable? none) few _ (by omega)
  | listPairs db start stem maxKeys keys keySizes values valueSizes =>
    right
    simp only [begin]
    split
    · exact ⟨.ok, failWith_keeps ..⟩
    · rename_i none
      refine runFor_keeps target id _ (fun store found listed => ?_) server
      have room := paged.pairs _ _ _ _ _ listed
      exact sendPairs_keeps (Descriptor.writable_of_unwritable? none) few _ (by omega)

theorem request_keeps (paged : Engine.Paged σ) (target : UInt8)
    (few : ∀ region ∈ request.targets, region.count ≤ 2 ^ 32) (server : Server σ) :
    (∃ db key source counted id, request = .bulkPut db key source ∧
      source.access.readable = true ∧ server.step .idle (.ok (.request target request)) =
        ⟨counted, .pulling target id key source, some (.bulkPull source.region)⟩) ∨
    ∃ status, Keeps request status (server.step .idle (.ok (.request target request))).goes := by
  rcases known_or_unknown target request server with ⟨id, db, named, found⟩ | unknown
  · obtain ⟨counted, begun, -⟩ := step_request found named
    rw [begun]
    rcases begin_keeps paged target named few counted with
      ⟨db, key, source, same, readable, asks⟩ | keeps
    · exact .inl ⟨db, key, source, counted, id, same, readable, asks⟩
    · exact .inr keeps
  · obtain ⟨after, reply, answered⟩ := step_unknown unknown
    rw [answered]
    exact .inr (Keeps.answers request reply)

theorem step_keeps {phase : Phase} (underWay : phase.isOver = false)
    (keeps : phase.Keeps request status) (reading : Reading) (server : Server σ) :
    Keeps request status (server.step phase reading).goes := by
  cases phase with
  | idle => cases underWay
  | closed ending => cases underWay
  | panicked cause => cases underWay
  | pulling target id key source =>
    simp only [step, stepPulling]
    split
    · split
      · rcases server.runFor_cases target id .bulkPut _ _ with
          ⟨-, -, gone⟩ | ⟨db, -, -, -, ⟨error, -, failed⟩ | ⟨stored, -, answered⟩⟩
        · rw [gone]
          exact .answer (by simp)
        · rw [failed]
          exact .fail _ error
        · rw [answered]
          exact .answer (by cases stored <;> rintro ⟨⟩)
      · exact failWith_keeps ..
    all_goals exact failWith_keeps ..
  | pushing rpc region rest reply =>
    obtain ⟨fits, within⟩ := keeps
    simp only [step, stepPushing]
    split
    · exact .proceed rpc fits within
    all_goals exact failWith_keeps ..

theorem plain_over (target : UInt8) (plain : request.rpc ∈ [.openName, .put, .get, .erase, .length])
    (server : Server σ) :
    (server.step .idle (.ok (.request target request))).phase.isOver = true := by
  rcases known_or_unknown target request server with ⟨id, db, named, found⟩ | unknown
  · obtain ⟨counted, begun, -⟩ := step_request found named
    rw [begun]
    cases request with
    | openName name => cases named
    | put _ key value => exact runFor_over target id _ (fun _ => rfl) counted
    | get _ key maxSize => exact runFor_over target id _ (fun _ => rfl) counted
    | erase _ key => exact runFor_over target id _ (fun _ => rfl) counted
    | length _ key => exact runFor_over target id _ (fun _ => rfl) counted
    | _ => simp [Request.rpc] at plain
  · obtain ⟨after, reply, answered⟩ := step_unknown unknown
    rw [answered]
    rfl

end Server

theorem Frame.Keeps.isReply {request : Request} {status : Status} {frame : Frame}
    (keeps : frame.Keeps request status) (alone : request.targets = []) : frame.isReply = true := by
  cases frame with
  | reply reply => rfl
  | bulkPush region writes =>
    obtain ⟨buffer, member, -⟩ := keeps
    have described := request.reach_subset status member
    rw [alone] at described
    cases described
  | _ => cases keeps

/-- What is said in a call: a pull first and then replies at most, or frames that all keep to one
status. -/
inductive Request.Speaks (request : Request) : List Frame → Prop where
  | pulls {db : DatabaseId} {key : Bytes} {source : Descriptor} {later : List Frame}
      (asked : request = .bulkPut db key source) (readable : source.access.readable = true)
      (replies : ∀ frame ∈ later, frame.isReply = true) :
      Speaks request (.bulkPull source.region :: later)
  | keeps {said : List Frame} (status : Status)
      (keeps : ∀ frame ∈ said, frame.Keeps request status) : Speaks request said

namespace Request.Speaks

variable {request : Request} {said : List Frame}

theorem permitted (spoken : request.Speaks said) : ∀ frame ∈ said, frame.Permitted request := by
  cases spoken with
  | pulls asked readable replies =>
    refine List.forall_mem_cons.mpr ⟨⟨_, _, _, asked, readable, rfl⟩, ?_⟩
    intro frame member
    have replied := replies frame member
    cases frame <;> trivial
  | keeps status keeps => exact fun frame member => (keeps frame member).permitted

theorem replies_of_plain (spoken : request.Speaks said)
    (plain : request.rpc ∈ [.openName, .put, .get, .erase, .length]) :
    ∀ frame ∈ said, frame.isReply = true := by
  cases spoken with
  | pulls asked readable replies =>
    subst asked
    simp [rpc] at plain
  | keeps status keeps =>
    exact fun frame member => (keeps frame member).isReply (targets_of_plain plain)

theorem pull_first (spoken : request.Speaks said) {region : UInt64}
    (pulled : .bulkPull region ∈ said) :
    ∃ db key source later, request = .bulkPut db key source ∧ source.access.readable = true ∧
      source.region = region ∧ said = .bulkPull region :: later ∧
      ∀ frame ∈ later, frame.isReply = true := by
  cases spoken with
  | @pulls db key source later asked readable replies =>
    have same : source.region = region := by
      rcases List.mem_cons.mp pulled with first | afterwards
      · exact (Frame.bulkPull.inj first).symm
      · cases replies _ afterwards
    exact ⟨db, key, source, later, asked, readable, same, by rw [same], replies⟩
  | keeps status keeps => cases keeps _ pulled

theorem push_of_truncated (spoken : request.Speaks said) {count : UInt64}
    (replied : .reply (.listed .truncated count) ∈ said) {region : UInt64}
    {writes : List SegmentWrite} (pushed : .bulkPush region writes ∈ said) :
    Frame.PushesWithin request.sizeRegions region writes := by
  cases spoken with
  | pulls asked readable replies =>
    rcases List.mem_cons.mp pushed with first | afterwards
    · cases first
    · cases replies _ afterwards
  | keeps status keeps =>
    obtain rfl : status = .truncated := keeps _ replied rfl
    exact keeps _ pushed

end Request.Speaks

namespace Connection

variable [Engine σ] {request : Request}

theorem episode_keeps {status : Status} {phase : Phase} {server : Server σ}
    (underWay : phase.isOver = false) (keeps : phase.Keeps request status)
    (readings : List Reading) :
    (episode phase server readings).Upholds (fun phase _ => phase.Keeps request status)
      (Frame.Keeps request status) := by
  refine upholds_of_steps ?_ underWay keeps readings
  intro phase server reading underWay keeps
  exact (Server.step_keeps underWay keeps reading server).upholds

theorem episode_speaks (paged : Engine.Paged σ) (target : UInt8)
    (few : ∀ region ∈ request.targets, region.count ≤ 2 ^ 32) (server : Server σ)
    (readings : List Reading) :
    request.Speaks (episode .idle server (.ok (.request target request) :: readings)).said := by
  rcases Server.request_keeps paged target few server with
    ⟨db, key, source, counted, id, rfl, readable, asks⟩ | ⟨status, keeps⟩
  · have pulled : (Frame.bulkPull source.region).Writable := (by decide : 8 ≤ maxPayload)
    have waits : Phase.Keeps (.bulkPut db key source) .ok (.pulling target id key source) := trivial
    rw [episode_asked (by rw [asks]) pulled (by rw [asks]; rfl), asks]
    -- a put has no regions to push into, so that what keeps to its status is a reply
    exact .pulls rfl readable fun frame member =>
      ((episode_keeps rfl waits readings).said frame member).isReply rfl
  · exact .keeps status (upholds_cons keeps.upholds fun underWay =>
      episode_keeps underWay keeps.waits readings).said

/-- A server stays within the regions a call describes. A call that travels without regions is over
at once. The only pull is the first frame, for the region of a bulk put that may be read. Every push
is into a region of the call that may be written into, and a caller that has exposed that region
accepts it. When a listing is answered as truncated, all pushes went to regions for lengths. -/
theorem stays_within_descriptors (paged : Engine.Paged σ) (server : Server σ)
    {received rest : Bytes} {target : UInt8}
    (arrived : takeFrame? received = some ⟨.ok (.request target request), rest⟩)
    (readings : List Reading) :
    let call := episode .idle server (.ok (.request target request) :: readings)
    let others := run call.phase call.server call.left
    run .idle server (.ok (.request target request) :: readings) =
        { others with written := call.said.flatMap Frame.form ++ others.written } ∧
      (request.rpc ∈ [.openName, .put, .get, .erase, .length] →
        call.left = readings ∧ ∀ frame ∈ call.said, frame.isReply = true) ∧
      (∀ region, .bulkPull region ∈ call.said → ∃ db key source later,
        request = .bulkPut db key source ∧ source.access.readable = true ∧
          source.region = region ∧ call.said = .bulkPull region :: later ∧
          ∀ frame ∈ later, frame.isReply = true) ∧
      (∀ region writes, .bulkPush region writes ∈ call.said → ∃ buffer ∈ request.targets,
        buffer.access.writable = true ∧ buffer.region = region ∧ buffer.Covers writes ∧
          ∀ regions held, Regions.find? region regions = some held → held.descriptor = buffer →
            ∃ after, regions.answer? (.bulkPush region writes) = some (.bulkAck, after)) ∧
      (∀ count region writes, .reply (.listed .truncated count) ∈ call.said →
        .bulkPush region writes ∈ call.said →
          Frame.PushesWithin request.sizeRegions region writes) ∧
      ∀ frame ∈ call.said, frame.Permitted request := by
  intro call others
  have writable := Frame.writable_of_decode (Frame.decode_of_takeFrame? arrived)
  have few : ∀ region ∈ request.targets, region.count ≤ 2 ^ 32 := fun _ described =>
    Request.count_le_of_writable writable described
  have spoken : request.Speaks call.said := episode_speaks paged target few server readings
  refine ⟨run_eq_episode .idle server _, ?_, fun region => spoken.pull_first, ?_,
    fun count region writes replied pushed => spoken.push_of_truncated replied pushed,
    spoken.permitted⟩
  · intro plain
    have settled := Server.plain_over target plain server
    exact ⟨congrArg Episode.left (episode_over settled readings), spoken.replies_of_plain plain⟩
  · intro region writes pushed
    obtain ⟨buffer, described, granted, rfl, covers⟩ := spoken.permitted _ pushed
    exact ⟨buffer, described, granted, rfl, covers, fun regions held found same =>
      covers.accepted granted found same⟩

/-- A listing of two keys into two segments of one byte, which are too short for the second key. -/
theorem stays_within_descriptors_of_listing :
    let store : MapStore := { options := {}, entries := [⟨[7], [5]⟩, ⟨[7, 8], [6]⟩] }
    let keys : Descriptor := ⟨1, .writeOnly, [1, 1]⟩
    let keySizes : Descriptor := ⟨2, .writeOnly, [16]⟩
    let listing : Request := .listKeys ⟨1⟩ [] [] 5 keys keySizes
    let call := episode .idle (.ofEngine (Store.map store))
      [.ok (.request 1 listing), .ok .bulkAck, .ok .shutdown]
    let lengths := [⟨0, [1, 0, 0, 0, 0, 0, 0, 0, 2, 0, 0, 0, 0, 0, 0, 0]⟩]
    call.said = [.bulkPush 2 lengths, .reply (.listed .truncated 2)] ∧
      Frame.PushesWithin [keySizes] 2 lengths := by
  intro store keys keySizes listing call lengths
  have arrived : takeFrame? ((Frame.request 1 listing).form ++ []) =
      some ⟨.ok (.request 1 listing), []⟩ := takeFrame?_form (by decide) []
  have said : call.said = [.bulkPush 2 lengths, .reply (.listed .truncated 2)] := by
    decide +kernel
  obtain ⟨-, -, -, -, truncated, -⟩ := stays_within_descriptors Store.paged
    (.ofEngine (Store.map store)) arrived [.ok .bulkAck, .ok .shutdown]
  refine ⟨said, truncated 2 2 lengths ?_ ?_⟩ <;> change _ ∈ call.said <;> simp [said]

end Connection

end KeyDepot
