import KeyDepot.Client.Basic
import KeyDepot.Proofs.CodecInverse
import KeyDepot.Proofs.Replacement

/-! What the other side reads and writes in exposed regions, by the contents of their segments. A
region is found by its number from its exposure to its withdrawal, and accesses to one region leave
the others as they are. -/

namespace KeyDepot

namespace Bytes

@[simp] theorem overwrite_nil (target : Bytes) : target.overwrite [] = target := by
  simp [overwrite]

@[simp] theorem length_overwrite (target data : Bytes) :
    (target.overwrite data).length = target.length := by
  simp only [overwrite, List.length_append, List.length_take, List.length_drop]
  omega

theorem take_overwrite {target data : Bytes} (fits : data.length ≤ target.length) :
    (target.overwrite data).take data.length = data := by
  simp [overwrite, List.take_of_length_le fits]

theorem overwrite_eq_append {target data : Bytes} (fits : data.length ≤ target.length) :
    target.overwrite data = data ++ target.drop data.length := by
  simp [overwrite, List.take_of_length_le fits]

end Bytes

namespace Region

/-- The bytes of the segments. -/
def contents (region : Region) : List Bytes := region.segments.map Buffer.bytes

theorem descriptor_sizes (region : Region) :
    region.descriptor.sizes = region.contents.map fun segment => UInt64.ofNat segment.length := by
  simp [descriptor, contents, Buffer.length]

/-- One write, on the contents of a region. -/
def applyWrite (contents : List Bytes) (write : SegmentWrite) : List Bytes :=
  contents.modify write.index.toNat fun segment => segment.overwrite write.data

/-- A write fits these contents when it names a segment and is not longer. -/
def Fits (contents : List Bytes) (write : SegmentWrite) : Prop :=
  ∃ segment, contents[write.index.toNat]? = some segment ∧ write.data.length ≤ segment.length

theorem admits_of_fits {region : Region} {write : SegmentWrite}
    (fits : Fits region.contents write) : region.admits write = .ok () := by
  obtain ⟨segment, named, room⟩ := fits
  simp only [contents, List.getElem?_map, Option.map_eq_some_iff] at named
  obtain ⟨buffer, held, rfl⟩ := named
  simp [admits, held, Buffer.length, Nat.not_lt.mpr room]

theorem forM_admits {region : Region} {writes : List SegmentWrite}
    (fits : ∀ write ∈ writes, Fits region.contents write) :
    writes.forM region.admits = .ok () := by
  induction writes with
  | nil => rfl
  | cons write writes ih =>
    have first := admits_of_fits (fits write (by simp))
    have others := ih fun other member => fits other (by simp [member])
    change (region.admits write >>= fun _ => writes.forM region.admits) = _
    rw [first]
    exact others

theorem map_bytes_foldl_write (segments : List Buffer) (writes : List SegmentWrite) :
    (writes.foldl write segments).map Buffer.bytes =
      writes.foldl applyWrite (segments.map Buffer.bytes) := by
  induction writes generalizing segments with
  | nil => rfl
  | cons first writes ih =>
    rw [List.foldl_cons, ih, List.foldl_cons]
    congr 1
    apply List.ext_getElem?
    intro index
    simp only [Region.write, applyWrite, List.getElem?_map, List.getElem?_modify]
    split <;> cases segments[index]? <;> simp

theorem push_of_fits {region : Region} {writes : List SegmentWrite}
    (fits : ∀ write ∈ writes, Fits region.contents write) :
    ∃ written, region.push writes = .ok written ∧ written.id = region.id ∧
      written.access = region.access ∧
      written.contents = writes.foldl applyWrite region.contents := by
  refine ⟨{ region with segments := writes.foldl write region.segments }, ?_, rfl, rfl,
    map_bytes_foldl_write ..⟩
  simp only [push, forM_admits fits]
  rfl

end Region

theorem Bulk.scatter_single {value segment : Bytes} {size : UInt64}
    (width : segment.length = size.toNat) (fits : value.length ≤ segment.length) :
    (∀ write ∈ Bulk.scatter value [size], Region.Fits [segment] write) ∧
      (Bulk.scatter value [size]).foldl Region.applyWrite [segment] =
        [segment.overwrite value] := by
  have whole : value.take size.toNat = value := List.take_of_length_le (width ▸ fits)
  cases value with
  | nil => simp [Bulk.scatter, Bulk.scatterFrom]
  | cons byte rest =>
    simp only [Bulk.scatter, Bulk.scatterFrom, List.isEmpty_cons, Bool.false_eq_true, if_false,
      whole]
    constructor
    · intro write member
      obtain rfl := List.mem_singleton.mp member
      exact ⟨segment, rfl, fits⟩
    · simp [Region.applyWrite]

/-- What a region has come to: its number, the access it grants and its contents. -/
structure Grant where
  id : UInt64
  access : Access
  contents : List Bytes

namespace Regions

/-- A live region with this number grants this access, and its segments have these contents. -/
def Holds (id : UInt64) (access : Access) (contents : List Bytes) (regions : Regions) : Prop :=
  ∃ region, regions.find? id = some region ∧ region.access = access ∧ region.contents = contents

/-- The numbers of the live regions. -/
def ids (regions : Regions) : List UInt64 := regions.live.map Region.id

theorem id_of_find? {regions : Regions} {id : UInt64} {region : Region}
    (found : regions.find? id = some region) : region.id = id :=
  beq_iff_eq.mp (List.find?_some (p := fun region : Region => region.id == id) found)

theorem expose_holds (segments : List Buffer) (access : Access) (regions : Regions) :
    (regions.expose segments access).2.Holds (regions.expose segments access).1.id access
      (segments.map Buffer.bytes) :=
  ⟨(regions.expose segments access).1, by simp [expose, find?], rfl, rfl⟩

theorem Holds.expose {regions : Regions} {id : UInt64} {access : Access} {contents : List Bytes}
    (held : regions.Holds id access contents) {segments : List Buffer} {granted : Access}
    (other : (regions.expose segments granted).1.id ≠ id) :
    (regions.expose segments granted).2.Holds id access contents := by
  obtain ⟨region, found, same⟩ := held
  refine ⟨region, ?_, same⟩
  have skipped : (UInt64.ofNat regions.next == id) = false := beq_false_of_ne other
  simpa [Regions.expose, find?, skipped] using found

theorem Holds.pull {regions : Regions} {id : UInt64} {access : Access} {contents : List Bytes}
    (held : regions.Holds id access contents) (readable : access.readable = true) :
    regions.pull id = .ok contents := by
  obtain ⟨region, found, rfl, rfl⟩ := held
  simp [Regions.pull, found, readable, Region.contents]

/-- A push into one region, and what it leaves in that region and in the others. -/
theorem Holds.push {regions : Regions} {id : UInt64} {access : Access} {contents : List Bytes}
    (held : regions.Holds id access contents) (writable : access.writable = true)
    {writes : List SegmentWrite} (fits : ∀ write ∈ writes, Region.Fits contents write) :
    ∃ after, regions.push id writes = .ok after ∧
      after.Holds id access (writes.foldl Region.applyWrite contents) ∧ after.ids = regions.ids ∧
      ∀ other granted kept, other ≠ id → regions.Holds other granted kept →
        after.Holds other granted kept := by
  obtain ⟨region, found, rfl, rfl⟩ := held
  obtain ⟨written, applied, named, granted, changed⟩ := Region.push_of_fits fits
  have numbered := id_of_find? found
  refine ⟨{ regions with
    live := regions.live.map fun other => if other.id == id then written else other }, ?_, ?_, ?_,
    ?_⟩
  · simp [Regions.push, found, writable, applied]
  · refine ⟨written, ?_, granted, changed⟩
    exact find?_replace (fun region : Region => region.id == id) found
      (by simp [named, numbered])
  · simp only [ids, List.map_map]
    apply List.map_congr_left
    intro other _
    by_cases same : other.id = id
    · simp [same, named, numbered]
    · simp [same]
  · intro other access kept differs ⟨there, looked, same⟩
    refine ⟨there, ?_, same⟩
    have absent : (written.id == other) = false := by simp [named, numbered, Ne.symm differs]
    have apart : ∀ item : Region, (item.id == id) = true → (item.id == other) = false := by
      intro item same
      simp [beq_iff_eq.mp same, Ne.symm differs]
    rw [← looked]
    exact find?_replace_other (fun region : Region => region.id == id) absent apart

theorem ids_withdraw (id : UInt64) (regions : Regions) :
    (regions.withdraw id).2.ids = regions.ids.filter (· != id) := by
  simp only [withdraw, revoke, ids]
  rw [List.filter_map]
  rfl

theorem Holds.withdraw {regions : Regions} {id : UInt64} {access : Access} {contents : List Bytes}
    (held : regions.Holds id access contents) :
    (regions.withdraw id).1.map Buffer.bytes = contents := by
  obtain ⟨region, found, -, rfl⟩ := held
  simp [Regions.withdraw, found, Region.contents]

theorem Holds.withdraw_other {regions : Regions} {id other : UInt64} {access : Access}
    {contents : List Bytes} (held : regions.Holds other access contents) (apart : other ≠ id) :
    (regions.withdraw id).2.Holds other access contents := by
  obtain ⟨region, found, same⟩ := held
  refine ⟨region, ?_, same⟩
  simp only [Regions.withdraw, revoke, find?, List.find?_filter] at found ⊢
  rw [← found]
  congr 1
  funext region
  by_cases same : region.id = other
  · simp [same, apart]
  · simp [same]

end Regions

namespace Client

theorem buffer_of_le (client : Client) {length : Nat} (short : length ≤ Bytes.maxLength) :
    ∃ buffer after, client.buffer length = .ok (buffer, after) := by
  simp only [buffer]
  split
  · exact ⟨_, _, by rw [Bytes.allocate_of_le short]; rfl⟩
  · rename_i pool _
    exact ⟨_, _, by rw [pool.acquire_of_le short]; rfl⟩

theorem buffer_of_lt (client : Client) {length : Nat} (long : Bytes.maxLength < length) :
    client.buffer length = .error .capacityOverflow := by
  simp only [buffer]
  split
  · rw [Bytes.allocate_of_lt long]
    rfl
  · rename_i pool _
    rw [pool.acquire_of_lt long]
    rfl

/-- A buffer is zero, whether it comes from the pools or not, and taking it exposes nothing. -/
theorem buffer_fresh {client after : Client} {length : Nat} {buffer : Buffer}
    (taken : client.buffer length = .ok (buffer, after)) :
    length ≤ Bytes.maxLength ∧ buffer.bytes = Bytes.zeros length ∧
      after.regions = client.regions ∧ after.settings = client.settings := by
  simp only [Client.buffer] at taken
  split at taken
  · obtain ⟨bytes, made, same⟩ := map_eq_ok_iff.mp taken
    obtain ⟨rfl, rfl⟩ := Prod.mk.inj same
    obtain ⟨short, rfl⟩ := Bytes.allocate_eq_ok_iff.mp made
    exact ⟨short, rfl, rfl, rfl⟩
  · obtain ⟨⟨spare, pool⟩, acquired, same⟩ := map_eq_ok_iff.mp taken
    obtain ⟨rfl, rfl⟩ := Prod.mk.inj same
    obtain ⟨short, rfl, -⟩ := Pool.acquire_eq_ok acquired
    exact ⟨short, rfl, rfl, rfl⟩

theorem buffers_of_le (client : Client) {lengths : List Nat}
    (short : ∀ length ∈ lengths, length ≤ Bytes.maxLength) :
    ∃ taken after, client.buffers lengths = .ok (taken, after) := by
  induction lengths generalizing client with
  | nil => exact ⟨_, _, rfl⟩
  | cons length lengths ih =>
    obtain ⟨first, others⟩ := List.forall_mem_cons.mp short
    obtain ⟨buffer, filled, one⟩ := client.buffer_of_le first
    obtain ⟨taken, after, rest⟩ := ih filled others
    exact ⟨buffer :: taken, after, by simp only [buffers, one, rest, bind, Except.bind]; rfl⟩

theorem buffers_fresh {client after : Client} {lengths : List Nat} {taken : List Buffer}
    (filled : client.buffers lengths = .ok (taken, after)) :
    (∀ length ∈ lengths, length ≤ Bytes.maxLength) ∧
      taken.map Buffer.bytes = lengths.map Bytes.zeros ∧ after.regions = client.regions ∧
      after.settings = client.settings := by
  induction lengths generalizing client taken with
  | nil =>
    obtain ⟨rfl, rfl⟩ := Prod.mk.inj (Except.ok.inj filled)
    exact ⟨nofun, rfl, rfl, rfl⟩
  | cons length lengths ih =>
    obtain ⟨⟨buffer, between⟩, one, filled⟩ := bind_eq_ok_iff.mp filled
    obtain ⟨⟨others, last⟩, rest, same⟩ := bind_eq_ok_iff.mp filled
    obtain ⟨rfl, rfl⟩ := Prod.mk.inj (Except.ok.inj same)
    obtain ⟨short, bytes, regions, settings⟩ := buffer_fresh one
    obtain ⟨shorts, contents, kept, likewise⟩ := ih rest
    exact ⟨List.forall_mem_cons.mpr ⟨short, shorts⟩, by rw [List.map_cons, bytes, contents]; rfl,
      kept.trans regions, likewise.trans settings⟩

/-- What exposing a region with these contents does to a client. -/
structure Exposes (client : Client) (access : Access) (contents : List Bytes) (region : Region)
    (after : Client) : Prop where
  number : region.id = UInt64.ofNat client.regions.next
  granted : region.access = access
  filled : region.contents = contents
  next : after.regions.next = client.regions.next + 1
  ids : after.regions.ids = region.id :: client.regions.ids
  held : after.regions.Holds region.id access contents
  others : ∀ id granted kept, id ≠ region.id → client.regions.Holds id granted kept →
    after.regions.Holds id granted kept
  settings : after.settings = client.settings

theorem expose_exposes (segments : List Buffer) (access : Access) (client : Client) :
    client.Exposes access (segments.map Buffer.bytes) (client.expose segments access).1
      (client.expose segments access).2 where
  number := rfl
  granted := rfl
  filled := rfl
  next := rfl
  ids := rfl
  held := Regions.expose_holds segments access client.regions
  others _ _ _ apart held := held.expose (Ne.symm apart)
  settings := rfl

theorem Exposes.descriptor {client after : Client} {access : Access} {contents : List Bytes}
    {region : Region} (exposes : client.Exposes access contents region after) :
    region.descriptor = ⟨UInt64.ofNat client.regions.next, access,
      contents.map fun segment => UInt64.ofNat segment.length⟩ := by
  rw [← exposes.filled, ← region.descriptor_sizes, ← exposes.number, ← exposes.granted]
  rfl

theorem Exposes.of_buffers {client filled after : Client} {access : Access}
    {contents : List Bytes} {region : Region}
    (exposes : filled.Exposes access contents region after)
    (regions : filled.regions = client.regions) (settings : filled.settings = client.settings) :
    client.Exposes access contents region after where
  number := exposes.number.trans (by rw [regions])
  granted := exposes.granted
  filled := exposes.filled
  next := exposes.next.trans (by rw [regions])
  ids := exposes.ids.trans (by rw [regions])
  held := exposes.held
  others id granted kept apart held := exposes.others id granted kept apart (by rwa [regions])
  settings := exposes.settings.trans settings

theorem exposeFresh_exposes {client after : Client} {lengths : List Nat} {region : Region}
    (exposed : client.exposeFresh lengths = .ok (region, after)) :
    client.Exposes .writeOnly (lengths.map Bytes.zeros) region after := by
  obtain ⟨⟨segments, filled⟩, taken, same⟩ := bind_eq_ok_iff.mp exposed
  obtain ⟨rfl, rfl⟩ := Prod.mk.inj (Except.ok.inj same)
  obtain ⟨-, bytes, regions, settings⟩ := buffers_fresh taken
  have exposes := filled.expose_exposes segments .writeOnly
  rw [bytes] at exposes
  exact exposes.of_buffers regions settings

theorem exposeFresh_of_le (client : Client) {lengths : List Nat}
    (short : ∀ length ∈ lengths, length ≤ Bytes.maxLength) :
    ∃ region after, client.exposeFresh lengths = .ok (region, after) ∧
      client.Exposes .writeOnly (lengths.map Bytes.zeros) region after := by
  obtain ⟨segments, filled, taken⟩ := client.buffers_of_le short
  have exposed : client.exposeFresh lengths = .ok (filled.expose segments .writeOnly) := by
    simp only [exposeFresh, taken, bind, Except.bind, pure, Except.pure]
  exact ⟨_, _, exposed, exposeFresh_exposes exposed⟩

theorem stage_put_bulk {client : Client} {id : DatabaseId} {key value : Bytes}
    (bulk : TransferMode.select key.length value.length client.settings.maxInline = .bulk)
    (short : value.length ≤ Bytes.maxLength) :
    ∃ region after, client.stage (.put id key value) =
        .ok (⟨.bulkPut id key region.descriptor, [region.id]⟩, after) ∧
      client.Exposes .readOnly [value] region after := by
  obtain ⟨buffer, filled, taken⟩ := client.buffer_of_le short
  obtain ⟨-, -, regions, settings⟩ := buffer_fresh taken
  have exposes := filled.expose_exposes [{ buffer with bytes := value }] .readOnly
  refine ⟨_, _, ?_, exposes.of_buffers regions settings⟩
  simp only [stage, bulk, taken, bind, Except.bind]
  rfl

theorem stage_get_bulk {client : Client} {id : DatabaseId} {key : Bytes} {maxSize : Nat}
    (bulk : TransferMode.select key.length maxSize client.settings.maxInline = .bulk)
    (short : maxSize ≤ Bytes.maxLength) :
    ∃ region after, client.stage (.get id key maxSize) =
        .ok (⟨.bulkGet id key region.descriptor, [region.id]⟩, after) ∧
      client.Exposes .writeOnly [Bytes.zeros maxSize] region after := by
  obtain ⟨region, after, exposed, exposes⟩ :=
    client.exposeFresh_of_le (List.forall_mem_singleton.mpr short)
  refine ⟨region, after, ?_, exposes⟩
  simp only [stage, bulk, exposed, bind, Except.bind]
  rfl

/-- A put of a value that no sequence can hold has no buffer to be sent with. -/
theorem stage_put_panics {client : Client} {id : DatabaseId} {key value : Bytes}
    (bulk : TransferMode.select key.length value.length client.settings.maxInline = .bulk)
    (long : Bytes.maxLength < value.length) :
    client.stage (.put id key value) = .error .capacityOverflow := by
  simp only [stage, bulk, client.buffer_of_lt long, bind, Except.bind]

theorem stage_get_panics {client : Client} {id : DatabaseId} {key : Bytes} {maxSize : Nat}
    (bulk : TransferMode.select key.length maxSize client.settings.maxInline = .bulk)
    (long : Bytes.maxLength < maxSize) :
    client.stage (.get id key maxSize) = .error .capacityOverflow := by
  simp only [stage, bulk, exposeFresh, buffers, client.buffer_of_lt long, bind, Except.bind]

/-- Taking back regions gives their contents, in the order in which they are asked for. -/
theorem withdraw_holds {client : Client} {grants : List Grant}
    (distinct : (grants.map Grant.id).Nodup)
    (held : ∀ grant ∈ grants, client.regions.Holds grant.id grant.access grant.contents) :
    (client.withdraw (grants.map Grant.id)).1.map (List.map Buffer.bytes) =
        grants.map Grant.contents ∧
      (∀ id ∈ (client.withdraw (grants.map Grant.id)).2.regions.ids,
        id ∈ client.regions.ids ∧ id ∉ grants.map Grant.id) ∧
      (client.withdraw (grants.map Grant.id)).2.settings = client.settings := by
  induction grants generalizing client with
  | nil => exact ⟨rfl, fun id live => ⟨live, List.not_mem_nil⟩, rfl⟩
  | cons grant grants ih =>
    obtain ⟨fresh, distinct⟩ := List.nodup_cons.mp distinct
    have first := held grant (by simp)
    have others : ∀ other ∈ grants, ({ client with
        regions := (client.regions.withdraw grant.id).2 } : Client).regions.Holds other.id
        other.access other.contents := by
      intro other member
      apply (held other (by simp [member])).withdraw_other
      rintro same
      exact fresh (List.mem_map.mpr ⟨other, member, same⟩)
    obtain ⟨contents, ids, settings⟩ := ih distinct others
    refine ⟨?_, ?_, ?_⟩
    · simp only [List.map_cons, withdraw, contents, first.withdraw]
    · intro id live
      obtain ⟨before, kept⟩ := ids id live
      rw [Regions.ids_withdraw] at before
      obtain ⟨before, apart⟩ := List.mem_filter.mp before
      refine ⟨before, ?_⟩
      rw [List.map_cons, List.mem_cons, not_or]
      exact ⟨by simpa using apart, kept⟩
    · simp only [List.map_cons, withdraw, settings]

/-- The end of a call that took a reply: it is read with what its regions have come to, and nothing
stays exposed. -/
theorem conclude_reply (client : Client) {grants : List Grant}
    (distinct : (grants.map Grant.id).Nodup)
    (held : ∀ grant ∈ grants, client.regions.Holds grant.id grant.access grant.contents)
    (only : ∀ id ∈ client.regions.ids, id ∈ grants.map Grant.id) (call : Call) (reply : Reply) :
    ∃ after, client.conclude call (grants.map Grant.id) (.ok reply) =
        (call.readReply (grants.map Grant.contents) reply, after) ∧
      after.regions.ids = [] ∧ after.settings = client.settings := by
  obtain ⟨contents, ids, settings⟩ := withdraw_holds distinct held
  have read : (client.withdraw (grants.map Grant.id)).1.map (fun region =>
      region.map Buffer.bytes) = grants.map Grant.contents := contents
  have none : (client.withdraw (grants.map Grant.id)).2.regions.ids = [] := by
    apply List.eq_nil_iff_forall_not_mem.mpr
    intro id live
    obtain ⟨before, gone⟩ := ids id live
    exact gone (only id before)
  simp only [conclude, read, Call.conclude]
  cases call.readReply (grants.map Grant.contents) reply with
  | error cause => exact ⟨_, rfl, none, settings⟩
  | ok returned => exact ⟨_, rfl, none, settings⟩

end Client

end KeyDepot
