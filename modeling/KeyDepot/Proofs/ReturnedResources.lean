import KeyDepot.Proofs.Dialogue
import KeyDepot.Proofs.PoolStock
import KeyDepot.Proofs.SlotLayout

/-! What a call takes it gives back. Whatever the other side does and however the call ends, its
regions are withdrawn; and its buffers are in the pools again, unless a listing is told a length
that no sequence can have. -/

namespace KeyDepot

namespace Regions

/-- The capacities of the buffers in live regions. -/
def lent (regions : Regions) : List Nat :=
  regions.live.flatMap fun region => region.segments.map Buffer.capacity

variable {regions after : Regions} {id : UInt64}

theorem find?_of_mem (distinct : regions.ids.Nodup) {region : Region}
    (member : region ∈ regions.live) : regions.find? region.id = some region :=
  find?_of_distinct distinct member

/-- The other side cannot change which regions live, nor the buffers they are made of. -/
structure Retains (regions after : Regions) : Prop where
  ids : after.ids = regions.ids
  lent : after.lent = regions.lent

theorem Retains.refl (regions : Regions) : regions.Retains regions := ⟨rfl, rfl⟩

theorem Retains.trans {last : Regions} (first : regions.Retains after)
    (second : after.Retains last) : regions.Retains last :=
  ⟨second.ids.trans first.ids, second.lent.trans first.lent⟩

theorem push_retains (distinct : regions.ids.Nodup) {writes : List SegmentWrite}
    (pushed : regions.push id writes = .ok after) : regions.Retains after := by
  refine ⟨ids_push pushed, ?_⟩
  obtain ⟨region, found, -, -, rfl⟩ := push_eq_ok pushed
  rw [lent, List.flatMap_map, lent]
  apply List.flatMap_congr
  intro other member
  by_cases same : other.id = id
  · have held := find?_of_mem distinct member
    rw [same, found] at held
    obtain rfl := Option.some.inj held
    simp only [same, beq_self_eq_true, if_true]
    exact Region.capacities_foldl_write ..
  · simp [same]

theorem answer?_retains (distinct : regions.ids.Nodup) {frame answer : Frame}
    (answered : regions.answer? frame = some (answer, after)) : regions.Retains after := by
  rcases answer?_eq_some answered with ⟨rfl, -⟩ | ⟨id, writes, -, -, pushed⟩
  · exact .refl _
  · exact push_retains distinct pushed

theorem revoke_split (distinct : regions.ids.Nodup) {region : Region}
    (found : regions.find? id = some region) :
    ∃ front back, regions.live = front ++ region :: back ∧
      (regions.revoke id).live = front ++ back := by
  obtain ⟨-, front, back, split, earlier⟩ := List.find?_eq_some_iff_append.mp found
  obtain rfl := id_of_find? found
  rw [ids, split, List.map_append, List.map_cons] at distinct
  have fresh := (List.nodup_cons.mp (List.nodup_append.mp distinct).2.1).1
  refine ⟨front, back, split, ?_⟩
  have kept : ∀ other ∈ back, (other.id != region.id) = true := by
    intro other member
    apply bne_iff_ne.mpr
    intro same
    exact fresh (same ▸ List.mem_map_of_mem member)
  rw [revoke, split, List.filter_append, List.filter_cons, List.filter_eq_self.mpr kept]
  simpa using earlier

end Regions

theorem converse_retains {regions : Regions} (distinct : regions.ids.Nodup) (peer : String)
    (readings : List Reading) : regions.Retains (converse peer readings regions).regions := by
  induction readings generalizing regions with
  | nil => exact .refl regions
  | cons reading rest ih =>
    rcases Regions.react_cases peer reading regions with
      ⟨frame, answer, after, -, answered, -, reacted⟩ | ⟨result, reacted, -, -⟩
    · simp only [converse, reacted]
      have step := Regions.answer?_retains distinct answered
      exact step.trans (ih (step.ids ▸ distinct))
    · simp only [converse, reacted]
      exact .refl regions

namespace Slots

/-- Slots cannot be resized exactly when one of the lengths is more than a sequence can have. -/
theorem resize_fails_iff {slots : List Bytes} {lengths : List Nat}
    (enough : lengths.length ≤ slots.length) :
    (∃ cause, resize slots lengths = .error cause) ↔
      ∃ length ∈ lengths, Bytes.maxLength < length := by
  induction slots generalizing lengths with
  | nil =>
    obtain rfl := List.length_eq_zero_iff.mp (Nat.le_zero.mp enough)
    exact ⟨nofun, nofun⟩
  | cons slot slots ih =>
    cases lengths with
    | nil => exact ⟨nofun, nofun⟩
    | cons length lengths =>
      have others := ih (Nat.le_of_succ_le_succ enough)
      rw [List.exists_mem_cons_iff, ← others]
      rcases Nat.lt_or_ge Bytes.maxLength length with long | short
      · simp [resize, Bytes.allocate_of_lt long, bind, Except.bind, long]
      · have one : resize (slot :: slots) (length :: lengths) =
            (resize slots lengths >>= fun others => .ok (Bytes.zeros length :: others)) := by
          rw [resize, Bytes.allocate_of_le short]
          rfl
        rw [one, bind_fails_iff]
        simp [Nat.not_lt.mpr short]

end Slots

theorem Bulk.length_unpackLengths_le (count : Nat) (packed : Bytes) :
    (unpackLengths count packed).length ≤ count := by
  induction count generalizing packed with
  | zero => exact Nat.le_refl 0
  | succ count ih =>
    rw [unpackLengths]
    split
    · exact Nat.succ_le_succ (ih _)
    · exact Nat.zero_le _

namespace Call

/-- The lengths of its items that a listing is told when they do not fit. -/
def told (call : Call) (segments : List (List Bytes)) (reply : Reply) : List Nat :=
  let packed (count place : Nat) := Bulk.unpackLengths count (segments.getD place []).flatten
  match call, reply with
  | .listKeys _ _ _ slots, .listed .truncated count => packed (min count.toNat slots.length) 1
  | .listPairs _ _ _ slots _, .listed .truncated count =>
    let count := min count.toNat slots.length
    packed count 1 ++ packed count 3
  | _, _ => []

/-- Slots cannot be made as long as a listing is told exactly when one of the lengths is more than a
sequence can have. -/
theorem readListing_fails_iff {slots : Slots} {keys keyLengths values valueLengths : List Bytes}
    {count : UInt64}
    (enough : (Bulk.unpackLengths (min count.toNat slots.keys.length) valueLengths.flatten).length ≤
      slots.values.length) :
    (∃ cause, readListing slots keys keyLengths values valueLengths (.listed .truncated count) =
      .error cause) ↔
      ∃ length ∈ Bulk.unpackLengths (min count.toNat slots.keys.length) keyLengths.flatten ++
        Bulk.unpackLengths (min count.toNat slots.keys.length) valueLengths.flatten,
        Bytes.maxLength < length := by
  have few : (Bulk.unpackLengths (min count.toNat slots.keys.length) keyLengths.flatten).length ≤
      slots.keys.length := (Bulk.length_unpackLengths_le ..).trans (Nat.min_le_right ..)
  simp only [List.mem_append, or_and_right, exists_or]
  rw [← Slots.resize_fails_iff few, ← Slots.resize_fails_iff enough]
  simp only [readListing, bind_fails_iff]
  cases Slots.resize slots.keys _ with
  | error cause => simp
  | ok keys => simp [pure, Except.pure]

/-- A call panics over a reply exactly when it is a listing that is told such a length. -/
theorem readReply_fails_iff {call : Call} (proper : call.misuse? = none)
    (segments : List (List Bytes)) (reply : Reply) :
    (∃ cause, call.readReply segments reply = .error cause) ↔
      ∃ length ∈ call.told segments reply, Bytes.maxLength < length := by
  cases call with
  | listKeys db start stem slots =>
    cases reply with
    | listed status count =>
      cases status with
      | truncated =>
        have listed := @readListing_fails_iff { keys := slots } (segments.getD 0 [])
          (segments.getD 1 []) [] [] count (by rw [List.flatten_nil, Bulk.unpackLengths_nil]; simp)
        rw [List.flatten_nil, Bulk.unpackLengths_nil, List.append_nil] at listed
        rw [told, ← listed]
        simp only [readReply, bind_fails_iff]
        simp [pure, Except.pure]
      | _ => exact ⟨nofun, nofun⟩
    | _ => exact ⟨nofun, nofun⟩
  | listPairs db start stem slots valueSlots =>
    cases reply with
    | listed status count =>
      cases status with
      | truncated =>
        have paired : slots.length = valueSlots.length := by
          simpa [misuse?] using proper
        have listed := @readListing_fails_iff { keys := slots, values := valueSlots }
          (segments.getD 0 []) (segments.getD 1 []) (segments.getD 2 []) (segments.getD 3 []) count
          ((Bulk.length_unpackLengths_le ..).trans ((Nat.min_le_right ..).trans paired.le))
        rw [told, ← listed]
        simp only [readReply, bind_fails_iff]
        simp [pure, Except.pure]
      | _ => exact ⟨nofun, nofun⟩
    | _ => exact ⟨nofun, nofun⟩
  | _ => exact ⟨nofun, nofun⟩

end Call

namespace Client

open Pool (sizesOf)

/-- The pools are those of the settings, and lack at most the buffers with these capacities. -/
structure Accounts (settings : Settings) (out : List Nat) (client : Client) : Prop where
  given : client.settings = settings
  pooled : client.pool.isSome = settings.pool.isSome
  stocked : ∀ sizing pool, settings.pool = some sizing → client.pool = some pool →
    (sizesOf sizing).length = sizing.pools ∧ pool.Stocked (sizesOf sizing) sizing.buffers ∧
      pool.Covers (sizesOf sizing) sizing.buffers out

variable {settings : Settings} {client after : Client} {out lost : List Nat}

theorem Accounts.perm (accounts : client.Accounts settings out) {other : List Nat}
    (same : out.Perm other) : client.Accounts settings other where
  given := accounts.given
  pooled := accounts.pooled
  stocked sizing pool sized held := by
    obtain ⟨count, stocked, covers⟩ := accounts.stocked sizing pool sized held
    exact ⟨count, stocked, covers.perm same⟩

theorem Accounts.of_pool (accounts : client.Accounts settings out) {other : Client}
    (pool : other.pool = client.pool) (same : other.settings = client.settings) :
    other.Accounts settings out where
  given := same.trans accounts.given
  pooled := (congrArg Option.isSome pool).trans accounts.pooled
  stocked sizing held sized there := accounts.stocked sizing held sized (pool ▸ there)

theorem Accounts.buffer (accounts : client.Accounts settings out) {length : Nat} {buffer : Buffer}
    (taken : client.buffer length = .ok (buffer, after)) :
    after.Accounts settings (buffer.capacity :: out) := by
  simp only [Client.buffer] at taken
  split at taken
  · rename_i unpooled
    obtain ⟨bytes, -, same⟩ := map_eq_ok_iff.mp taken
    obtain ⟨-, rfl⟩ := Prod.mk.inj same
    refine ⟨accounts.given, accounts.pooled, fun sizing pool _ there => ?_⟩
    rw [unpooled] at there
    cases there
  · rename_i pool held
    obtain ⟨⟨spare, left⟩, acquired, same⟩ := map_eq_ok_iff.mp taken
    obtain ⟨rfl, rfl⟩ := Prod.mk.inj same
    refine ⟨accounts.given, by rw [← accounts.pooled, held]; rfl,
      fun sizing other sized there => ?_⟩
    obtain rfl := Option.some.inj there
    obtain ⟨count, stocked, covers⟩ := accounts.stocked sizing pool sized held
    have one := stocked.acquire acquired out
    exact ⟨count, one.1, one.2 covers⟩

theorem Accounts.buffers (accounts : client.Accounts settings out) {lengths : List Nat}
    {segments : List Buffer} (taken : client.buffers lengths = .ok (segments, after)) :
    after.Accounts settings (segments.map Buffer.capacity ++ out) := by
  induction lengths generalizing client out segments with
  | nil =>
    obtain ⟨rfl, rfl⟩ := Prod.mk.inj (Except.ok.inj taken)
    exact accounts
  | cons length rest ih =>
    obtain ⟨⟨buffer, between⟩, one, others⟩ := bind_eq_ok_iff.mp taken
    obtain ⟨⟨more, last⟩, all, same⟩ := bind_eq_ok_iff.mp others
    obtain ⟨rfl, rfl⟩ := Prod.mk.inj (Except.ok.inj same)
    exact (ih (accounts.buffer one) all).perm List.perm_middle

theorem Accounts.recycle {buffers : List Buffer}
    (accounts : client.Accounts settings (buffers.map Buffer.capacity ++ out)) :
    (client.recycle buffers).Accounts settings out := by
  induction buffers generalizing client with
  | nil =>
    exact accounts.of_pool (by cases pools : client.pool <;> simp [Client.recycle, pools]) rfl
  | cons buffer rest ih =>
    let given : Client := { client with pool := client.pool.map fun pool => pool.release buffer }
    have whole : client.recycle (buffer :: rest) = given.recycle rest := by
      cases pools : client.pool <;> simp [Client.recycle, given, pools]
    rw [whole]
    apply ih
    refine ⟨accounts.given, by rw [← accounts.pooled, Option.isSome_map], ?_⟩
    intro sizing pool sized there
    obtain ⟨before, held, rfl⟩ := Option.map_eq_some_iff.mp there
    obtain ⟨count, stocked, covers⟩ := accounts.stocked sizing before sized held
    have back := stocked.release buffer (rest.map Buffer.capacity ++ out)
    exact ⟨count, back.1, back.2 covers⟩

/-- A client amid the staging of a call: so many regions are exposed, numbered on from `first`, and
their buffers are all that the pools lack beside those that were lost before. -/
structure Lends (settings : Settings) (lost : List Nat) (first count : Nat) (client : Client) :
    Prop where
  ids : client.regions.ids = ((List.range' first count).map UInt64.ofNat).reverse
  next : client.regions.next = first + count
  accounts : client.Accounts settings (client.regions.lent ++ lost)

variable {first count : Nat}

theorem Lends.expose (lends : client.Lends settings lost first count) (filled : Client)
    (segments : List Buffer) (regions : filled.regions = client.regions)
    (accounts : filled.Accounts settings
      (segments.map Buffer.capacity ++ (client.regions.lent ++ lost))) (access : Access) :
    (filled.expose segments access).1.id = UInt64.ofNat (first + count) ∧
      (filled.expose segments access).2.Lends settings lost first (count + 1) := by
  have number : UInt64.ofNat filled.regions.next = UInt64.ofNat (first + count) := by
    rw [regions, lends.next]
  refine ⟨number, ?_, ?_, ?_⟩
  · have exposed : (filled.expose segments access).2.regions.ids =
        UInt64.ofNat filled.regions.next :: filled.regions.ids := rfl
    rw [exposed, number, regions, lends.ids, List.range'_1_concat, List.map_append,
      List.reverse_append]
    rfl
  · have counted : (filled.expose segments access).2.regions.next = filled.regions.next + 1 := rfl
    rw [counted, regions, lends.next, Nat.add_assoc]
  · have grown : (filled.expose segments access).2.regions.lent =
        segments.map Buffer.capacity ++ filled.regions.lent := rfl
    rw [grown, regions, List.append_assoc]
    exact accounts.of_pool rfl rfl

theorem Lends.exposeFresh (lends : client.Lends settings lost first count) {lengths : List Nat}
    {region : Region} (exposed : client.exposeFresh lengths = .ok (region, after)) :
    region.id = UInt64.ofNat (first + count) ∧ after.Lends settings lost first (count + 1) := by
  obtain ⟨⟨segments, filled⟩, taken, same⟩ := bind_eq_ok_iff.mp exposed
  obtain ⟨rfl, rfl⟩ := Prod.mk.inj (Except.ok.inj same)
  exact lends.expose _ _ (buffers_fresh taken).2.2.1 (lends.accounts.buffers taken) .writeOnly

theorem Lends.exposeSlots (lends : client.Lends settings lost first count) {slots : List Bytes}
    {items lengths : Region} (exposed : client.exposeSlots slots = .ok (items, lengths, after)) :
    items.id = UInt64.ofNat (first + count) ∧ lengths.id = UInt64.ofNat (first + (count + 1)) ∧
      after.Lends settings lost first (count + 2) := by
  obtain ⟨⟨region, between⟩, one, others⟩ := bind_eq_ok_iff.mp exposed
  obtain ⟨⟨packed, last⟩, other, same⟩ := bind_eq_ok_iff.mp others
  obtain ⟨rfl, rest⟩ := Prod.mk.inj (Except.ok.inj same)
  obtain ⟨rfl, rfl⟩ := Prod.mk.inj rest
  obtain ⟨number, lent⟩ := lends.exposeFresh one
  exact ⟨number, lent.exposeFresh other⟩

theorem Lends.stage (lends : client.Lends settings lost first 0) {call : Call} {staged : Staged}
    (made : client.stage call = .ok (staged, after)) :
    ∃ count ≤ 4, staged.regions = (List.range' first count).map UInt64.ofNat ∧
      after.Lends settings lost first count := by
  cases call with
  | put db key value =>
    simp only [Client.stage] at made
    split at made
    · obtain ⟨rfl, rfl⟩ := Prod.mk.inj (Except.ok.inj made)
      exact ⟨0, by omega, rfl, lends⟩
    · obtain ⟨⟨buffer, filled⟩, taken, same⟩ := bind_eq_ok_iff.mp made
      obtain ⟨rfl, rfl⟩ := Prod.mk.inj (Except.ok.inj same)
      have out : filled.Accounts settings (buffer.capacity :: (client.regions.lent ++ lost)) :=
        lends.accounts.buffer taken
      obtain ⟨number, exposed⟩ := lends.expose filled [{ buffer with bytes := value }]
        (buffer_fresh taken).2.2.1 out .readOnly
      exact ⟨1, by omega, by simpa using number, exposed⟩
  | get db key maxSize =>
    simp only [Client.stage] at made
    split at made
    · obtain ⟨rfl, rfl⟩ := Prod.mk.inj (Except.ok.inj made)
      exact ⟨0, by omega, rfl, lends⟩
    · obtain ⟨⟨region, filled⟩, fresh, same⟩ := bind_eq_ok_iff.mp made
      obtain ⟨rfl, rfl⟩ := Prod.mk.inj (Except.ok.inj same)
      obtain ⟨number, exposed⟩ := lends.exposeFresh fresh
      exact ⟨1, by omega, by simpa using number, exposed⟩
  | listKeys db start stem slots =>
    obtain ⟨⟨items, lengths, filled⟩, fresh, same⟩ := bind_eq_ok_iff.mp made
    obtain ⟨rfl, rfl⟩ := Prod.mk.inj (Except.ok.inj same)
    obtain ⟨one, other, both⟩ := lends.exposeSlots fresh
    exact ⟨2, by omega, by simp only [one, other]; rfl, both⟩
  | listPairs db start stem slots valueSlots =>
    obtain ⟨⟨items, lengths, between⟩, fresh, others⟩ := bind_eq_ok_iff.mp made
    obtain ⟨⟨values, valueLengths, filled⟩, more, same⟩ := bind_eq_ok_iff.mp others
    obtain ⟨rfl, rfl⟩ := Prod.mk.inj (Except.ok.inj same)
    obtain ⟨one, other, both⟩ := lends.exposeSlots fresh
    obtain ⟨third, fourth, all⟩ := both.exposeSlots more
    exact ⟨4, by omega, by simp only [one, other, third, fourth]; rfl, all⟩
  | openName | erase | length =>
    obtain ⟨rfl, rfl⟩ := Prod.mk.inj (Except.ok.inj made)
    exact ⟨0, by omega, rfl, lends⟩

theorem nodup_numbers (first : Nat) {count : Nat} (few : count ≤ 2 ^ 64) :
    ((List.range' first count).map UInt64.ofNat).Nodup := by
  rw [List.Nodup, List.pairwise_map]
  refine (List.pairwise_lt_range' 1).imp_of_mem ?_
  intro number other member otherMember before same
  rw [List.mem_range'_1] at member otherMember
  have numbers := congrArg UInt64.toNat same
  simp only [UInt64.toNat_ofNat'] at numbers
  omega

theorem withdraw_all (client : Client) {numbers : List UInt64} (distinct : numbers.Nodup)
    (exposed : client.regions.ids.Perm numbers) :
    ((client.withdraw numbers).1.flatten.map Buffer.capacity).Perm client.regions.lent ∧
      (client.withdraw numbers).2.regions.live = [] ∧
      (client.withdraw numbers).2.pool = client.pool ∧
      (client.withdraw numbers).2.settings = client.settings := by
  induction numbers generalizing client with
  | nil =>
    have none_live : client.regions.live = [] := by
      simpa [Regions.ids] using exposed.eq_nil
    simp [withdraw, Regions.lent, none_live]
  | cons number rest ih =>
    obtain ⟨fresh, others⟩ := List.nodup_cons.mp distinct
    have unique : client.regions.ids.Nodup := exposed.nodup_iff.mpr distinct
    have live : number ∈ client.regions.ids := exposed.mem_iff.mpr List.mem_cons_self
    obtain ⟨region, held, rfl⟩ := List.mem_map.mp live
    have found := Regions.find?_of_mem unique held
    obtain ⟨front, back, split, left⟩ := Regions.revoke_split unique found
    have remaining : (client.regions.revoke region.id).ids.Perm rest := by
      have listed :
          client.regions.ids.Perm (region.id :: (client.regions.revoke region.id).ids) := by
        simp [Regions.ids, split, left, List.perm_middle]
      exact (List.perm_cons region.id).mp (listed.symm.trans exposed)
    have later := ih { client with regions := client.regions.revoke region.id } others remaining
    have given : client.regions.withdraw region.id =
        (region.segments, client.regions.revoke region.id) := by
      simp only [Regions.withdraw, found]
    simp only [withdraw, given, List.flatten_cons, List.map_append]
    refine ⟨(later.1.append_left _).trans ?_, later.2⟩
    rw [Regions.lent, Regions.lent, split, left, List.flatMap_append, List.flatMap_append,
      List.flatMap_cons]
    exact List.perm_append_comm_assoc _ _ _

/-- A client between two calls: nothing is exposed, and the pools lack at most what was lost. -/
structure Settled (settings : Settings) (lost : List Nat) (client : Client) : Prop where
  live : client.regions.live = []
  accounts : client.Accounts settings lost

theorem Settled.lends (settled : client.Settled settings lost) :
    client.Lends settings lost client.regions.next 0 where
  ids := by rw [Regions.ids, settled.live]; rfl
  next := rfl
  accounts := by
    rw [Regions.lent, settled.live]
    exact settled.accounts

/-- A client that has lost nothing has all its buffers in its pools. -/
theorem Settled.full (settled : client.Settled settings []) :
    client.pool.map Pool.idle =
        settings.pool.map (fun sizing => sizing.pools * sizing.buffers) ∧
      ∀ pool, client.pool = some pool → ∀ sizeClass ∈ pool.classes,
        sizeClass.idle.length = pool.room := by
  have pooled := settled.accounts.pooled
  cases held : client.pool with
  | none =>
    rw [held] at pooled
    cases sized : settings.pool with
    | none => exact ⟨rfl, nofun⟩
    | some sizing =>
      rw [sized] at pooled
      cases pooled
  | some pool =>
    rw [held] at pooled
    obtain ⟨sizing, sized⟩ := Option.isSome_iff_exists.mp pooled.symm
    obtain ⟨count, stocked, covers⟩ := settled.accounts.stocked sizing pool sized held
    have full := stocked.full covers
    have classes : pool.classes.length = sizing.pools := by
      rw [← count, ← stocked.sized, Pool.sizes, List.length_map]
    constructor
    · rw [sized, Option.map_some, Option.map_some, Pool.idle_of_full full, classes]
    · intro other same sizeClass member
      obtain rfl := Option.some.inj same
      rw [full sizeClass member, stocked.roomy]

/-- The end of a call: nothing is exposed any more, and if the call returns it has lost nothing. -/
theorem conclude_settles {staged : Client} {regions : Regions}
    (lends : staged.Lends settings lost first count) (few : count ≤ 4)
    (retains : staged.regions.Retains regions) (call : Call) (result : Except Error Reply) :
    let ended := ({ staged with regions } : Client).conclude call
      ((List.range' first count).map UInt64.ofNat) result
    (∃ out, ended.2.Settled settings (out ++ lost)) ∧
      ∀ returned, ended.1 = .ok returned → ended.2.Settled settings lost := by
  have exposed : regions.ids.Perm ((List.range' first count).map UInt64.ofNat) := by
    rw [retains.ids, lends.ids]
    exact List.reverse_perm _
  obtain ⟨back, live, pool, settings⟩ := withdraw_all { staged with regions }
    (nodup_numbers first (by omega)) exposed
  have missing := lends.accounts.of_pool pool settings
  simp only [conclude]
  split
  · exact ⟨⟨_, live, missing⟩, by rintro _ ⟨⟩⟩
  · have returned := missing.perm ((retains.lent ▸ back.symm).append_right lost)
    exact ⟨⟨[], live, returned.recycle⟩, fun _ _ => ⟨live, returned.recycle⟩⟩

theorem exchange_retains (distinct : client.regions.ids.Nodup) (target : UInt8)
    (request : Request) (peer : String) (encounter : Encounter) :
    client.regions.Retains (client.exchange target request peer encounter).regions := by
  cases encounter with
  | unreachable fault => exact .refl _
  | readings readings =>
    simp only [exchange]
    split
    · exact .refl _
    · exact converse_retains distinct peer readings

/-- What the regions that are taken back contain. -/
def contents (regions : List UInt64) (client : Client) : List (List Bytes) :=
  (client.withdraw regions).1.map (List.map Buffer.bytes)

/-- The end of a call panics exactly when it reads a reply that tells of a length no sequence can
have. -/
theorem conclude_fails_iff {call : Call} (proper : call.misuse? = none) (client : Client)
    (regions : List UInt64) (result : Except Error Reply) :
    (∃ cause, (client.conclude call regions result).1 = .error cause) ↔
      ∃ reply, result = .ok reply ∧
        ∃ length ∈ call.told (client.contents regions) reply, Bytes.maxLength < length := by
  have read : (∃ cause, (client.conclude call regions result).1 = .error cause) ↔
      ∃ cause, call.conclude (client.contents regions) result = .error cause := by
    simp only [conclude, contents]
    split <;> rename_i told <;> simp [told]
  rw [read]
  cases result with
  | error error => simp [Call.conclude, pure, Except.pure]
  | ok reply =>
    have same : call.conclude (client.contents regions) (.ok reply) =
      call.readReply (client.contents regions) reply := rfl
    rw [same, Call.readReply_fails_iff proper]
    simp

end Client

/-- A call that is tried, and what the other side does about it. -/
structure Attempt where
  call : Call
  target : UInt8 := 0
  peer : String := ""
  encounter : Encounter

namespace Attempt

/-- How the call fares. -/
def fate (attempt : Attempt) (client : Client) : Fate (Visit attempt.call) Client :=
  client.fate attempt.call attempt.target attempt.peer attempt.encounter

/-- The client after a call that is over, whether it has returned or panicked. -/
def after? (attempt : Attempt) (client : Client) : Option Client :=
  match attempt.fate client with
  | .returned visit => some visit.client
  | .waits => none
  | .panicked _ left => some left

/-- What is said once the call is staged. -/
def course (attempt : Attempt) (staged : Staged) (prepared : Client) : Exchange :=
  prepared.exchange attempt.target staged.request attempt.peer attempt.encounter

/-- The client at the end of that, with its regions as they have become. -/
def ending (attempt : Attempt) (staged : Staged) (prepared : Client) : Client :=
  { prepared with regions := (attempt.course staged prepared).regions }

/-- The call is a listing, and the other side answers that its items do not fit, and tells of one a
length that no sequence can have. -/
def overwhelms (attempt : Attempt) (client : Client) : Bool :=
  match client.stage attempt.call with
  | .error _ => false
  | .ok (staged, prepared) =>
    match (attempt.course staged prepared).result with
    | some (.ok reply) =>
      let contents := (attempt.ending staged prepared).contents staged.regions
      (attempt.call.told contents reply).any (Bytes.maxLength < ·)
    | _ => false

variable {settings : Settings} {client after : Client} {lost : List Nat}

/-- What a call that is sent leaves behind, if it ever ends. -/
theorem after?_of_staged (attempt : Attempt) {staged : Staged} {prepared : Client}
    (proper : attempt.call.misuse? = none)
    (made : client.stage attempt.call = .ok (staged, prepared)) :
    attempt.after? client =
      ((attempt.course staged prepared).result <|>
        (prepared.silence? attempt.peer).map Except.error).map fun result =>
          ((attempt.ending staged prepared).conclude attempt.call staged.regions result).2 := by
  simp only [after?, fate, Client.fate, proper, made, course, ending]
  cases (prepared.exchange attempt.target staged.request attempt.peer attempt.encounter).result <|>
      (prepared.silence? attempt.peer).map Except.error with
  | none => rfl
  | some result =>
    simp only [Option.map_some]
    generalize Client.conclude attempt.call staged.regions result _ = ended
    obtain ⟨told, left⟩ := ended
    cases told <;> rfl

/-- Only the other side has replies, so a call that panics at its end has been overwhelmed by it. -/
theorem overwhelms_of_fails {attempt : Attempt} {staged : Staged} {prepared : Client}
    (proper : attempt.call.misuse? = none)
    (made : client.stage attempt.call = .ok (staged, prepared)) {result : Except Error Reply}
    (came : ((attempt.course staged prepared).result <|>
      (prepared.silence? attempt.peer).map Except.error) = some result) {cause : Panic}
    (told : ((attempt.ending staged prepared).conclude attempt.call staged.regions result).1 =
      .error cause) : attempt.overwhelms client = true := by
  obtain ⟨reply, rfl, length, member, long⟩ := (Client.conclude_fails_iff proper
    (attempt.ending staged prepared) staged.regions result).mp ⟨cause, told⟩
  have replied : (attempt.course staged prepared).result = some (.ok reply) := by
    rw [Option.orElse_eq_orElse, Option.orElse_eq_or, Option.or_eq_some_iff] at came
    rcases came with replied | ⟨-, silent⟩
    · exact replied
    · obtain ⟨fault, -, wrong⟩ := Option.map_eq_some_iff.mp silent
      cases wrong
  simp only [overwhelms, made, replied]
  exact List.any_eq_true.mpr ⟨length, member, decide_eq_true long⟩

/-- Whatever comes of a call, nothing is exposed after it, and nothing is lost unless the client was
overwhelmed. -/
theorem settles (settled : client.Settled settings lost) {attempt : Attempt}
    (reached : attempt.after? client = some after) :
    (∃ out, after.Settled settings (out ++ lost)) ∧
      (attempt.overwhelms client = false → after.Settled settings lost) := by
  have kept : (∃ out, client.Settled settings (out ++ lost)) ∧
      (attempt.overwhelms client = false → client.Settled settings lost) :=
    ⟨⟨[], settled⟩, fun _ => settled⟩
  cases proper : attempt.call.misuse? with
  | some cause =>
    simp only [after?, fate, Client.fate, proper] at reached
    obtain rfl := Option.some.inj reached
    exact kept
  | none =>
    cases made : client.stage attempt.call with
    | error cause =>
      simp only [after?, fate, Client.fate, proper, made] at reached
      obtain rfl := Option.some.inj reached
      exact kept
    | ok ready =>
      obtain ⟨staged, prepared⟩ := ready
      obtain ⟨count, few, numbers, lends⟩ := settled.lends.stage made
      have distinct : prepared.regions.ids.Nodup := by
        rw [lends.ids, (List.reverse_perm _).nodup_iff]
        exact Client.nodup_numbers _ (by omega)
      have retains := Client.exchange_retains distinct attempt.target staged.request attempt.peer
        attempt.encounter
      rw [after?_of_staged attempt proper made] at reached
      obtain ⟨result, came, rfl⟩ := Option.map_eq_some_iff.mp reached
      obtain ⟨exposed, returned⟩ := Client.conclude_settles lends few retains attempt.call result
      rw [← numbers] at exposed returned
      refine ⟨exposed, fun spared => ?_⟩
      cases told : ((attempt.ending staged prepared).conclude attempt.call staged.regions
          result).1 with
      | ok answer => exact returned answer told
      | error cause =>
        rw [overwhelms_of_fails proper made came told] at spared
        cases spared

end Attempt

namespace Client

/-- The client after these calls, made one after the other; none when one of them waits for ever. -/
def attend (attempts : List Attempt) (client : Client) : Option Client :=
  attempts.foldlM (fun client attempt => attempt.after? client) client

/-- None of the calls overwhelms the client. -/
def withstands : List Attempt → Client → Bool
  | [], _ => true
  | attempt :: rest, client =>
    !attempt.overwhelms client && (attempt.after? client).all (withstands rest)

variable {settings : Settings} {client after : Client}

theorem attend_settled {lost : List Nat} (settled : client.Settled settings lost)
    {attempts : List Attempt} (attended : client.attend attempts = some after) :
    (∃ out, after.Settled settings (out ++ lost)) ∧
      (client.withstands attempts = true → after.Settled settings lost) := by
  induction attempts generalizing client lost with
  | nil =>
    obtain rfl := Option.some.inj attended
    exact ⟨⟨[], settled⟩, fun _ => settled⟩
  | cons attempt rest ih =>
    obtain ⟨next, reached, later⟩ := Option.bind_eq_some_iff.mp attended
    obtain ⟨⟨out, exposed⟩, spared⟩ := attempt.settles settled reached
    constructor
    · obtain ⟨more, ended⟩ := (ih exposed later).1
      exact ⟨more ++ out, List.append_assoc more out lost ▸ ended⟩
    · intro withstood
      simp only [withstands, reached, Option.all_some, Bool.and_eq_true,
        Bool.not_eq_true'] at withstood
      exact (ih (spared withstood.1) later).2 withstood.2

theorem create_settled (created : Client.create settings = .ok (.ok client))
    (unsaturated : ∀ sizing, settings.pool = some sizing → sizing.Unsaturated) :
    client.Settled settings [] := by
  simp only [Client.create] at created
  cases sized : settings.pool with
  | none =>
    rw [sized] at created
    obtain rfl := Except.ok.inj (Except.ok.inj created)
    exact ⟨rfl, rfl, by rw [sized]; rfl, fun _ _ _ held => by cases held⟩
  | some sizing =>
    rw [sized] at created
    obtain ⟨outcome, made, same⟩ := map_eq_ok_iff.mp created
    obtain ⟨pool, rfl, rfl⟩ := map_eq_ok_iff.mp same
    refine ⟨rfl, rfl, by rw [sized]; rfl, fun other held given there => ?_⟩
    obtain rfl := Option.some.inj (sized.symm.trans given)
    obtain rfl := Option.some.inj there
    exact Pool.create_stocked made (unsaturated sizing sized)

/-- Whatever calls a client makes and whatever the other side does meanwhile, after each call that
is over no region is exposed; and as long as the client has not been overwhelmed, all pools are
full. -/
theorem resources_return (created : Client.create settings = .ok (.ok client))
    (unsaturated : ∀ sizing, settings.pool = some sizing → sizing.Unsaturated)
    {attempts : List Attempt} (attended : client.attend attempts = some after) :
    after.regions.size = 0 ∧
      (client.withstands attempts = true →
        after.pool.map Pool.idle =
          settings.pool.map (fun sizing => sizing.pools * sizing.buffers) ∧
        ∀ pool, after.pool = some pool → ∀ sizeClass ∈ pool.classes,
          sizeClass.idle.length = pool.room) := by
  obtain ⟨⟨out, ended⟩, kept⟩ := attend_settled (create_settled created unsaturated) attended
  refine ⟨?_, fun withstood => (kept withstood).full⟩
  rw [Regions.size, ended.live, List.length_nil]

/-- A client with one buffer of four bytes and one of eight, that sends every value through a region
and waits for some time only. -/
def frugal : Client where
  settings := { callTimeout := 5, maxInline := 0,
                pool := some { pools := 2, buffers := 1, firstSize := 4, multiple := 2 } }
  pool := some { classes := [⟨4, [⟨4, []⟩]⟩, ⟨8, [⟨8, []⟩]⟩], room := 1 }

theorem frugal_unsaturated :
    ∀ sizing, frugal.settings.pool = some sizing → sizing.Unsaturated := by
  rintro sizing same
  obtain rfl := Option.some.inj same
  show 4 * 2 ^ 1 ≤ Text.maxWord
  decide

/-- A get larger than all classes that is pushed to, once wrongly, and then cut off; a put that is
pulled and left waiting; a listing that needs more buffers than there are and is told more items
than it asked for; a get that is too large for any buffer; and a put that reaches nobody. -/
def illServed : List Attempt :=
  [{ call := .get ⟨1⟩ [7] 9
     encounter := .readings [.ok (.bulkPush 1 [⟨0, [1, 2]⟩]), .ok (.bulkPush 1 [⟨3, [1]⟩]),
       .error (.stream .earlyEnd)] },
   { call := .put ⟨1⟩ [7] [1, 2, 3], encounter := .readings [.ok (.bulkPull 2)] },
   { call := .listPairs ⟨1⟩ [] [] [[0, 0], [0]] [[0, 0, 0], [0, 0, 0]]
     encounter := .readings [.ok (.bulkPush 3 [⟨0, [5, 5]⟩]), .ok (.reply (.listed .ok 9))] },
   { call := .get ⟨1⟩ [7] (2 ^ 63), encounter := .readings [] },
   { call := .put ⟨1⟩ [7] [1, 2, 3, 4, 5], encounter := .unreachable .refused }]

theorem resources_return_ill_served :
    Client.create frugal.settings = .ok (.ok frugal) ∧
      (∀ sizing, frugal.settings.pool = some sizing → sizing.Unsaturated) ∧
      ∃ after, frugal.attend illServed = some after ∧ after.regions.size = 0 ∧
        after.pool.map Pool.idle = some 2 := by
  have created : Client.create frugal.settings = .ok (.ok frugal) := by decide +kernel
  have served : (frugal.attend illServed).isSome = true := by decide +kernel
  obtain ⟨after, attended⟩ := Option.isSome_iff_exists.mp served
  obtain ⟨clear, full⟩ := resources_return created frugal_unsaturated attended
  exact ⟨created, frugal_unsaturated, after, attended, clear, (full (by decide +kernel)).1⟩

/-- A listing that is told that it needs a slot of 2 ^ 64 - 1 bytes takes the buffers of its regions
with it: they are missing after a call that returns well. -/
theorem buffers_lost_when_overwhelmed :
    let listing : Attempt :=
      { call := .listKeys ⟨1⟩ [] [] [[0]]
        encounter := .readings [.ok (.bulkPush 2 [⟨0, List.replicate 8 255⟩]),
          .ok (.reply (.listed .truncated 1))] }
    let erase : Attempt :=
      { call := .erase ⟨1⟩ [7], encounter := .readings [.ok (.reply (.ack .ok))] }
    Client.create frugal.settings = .ok (.ok frugal) ∧
      (∀ sizing, frugal.settings.pool = some sizing → sizing.Unsaturated) ∧
      ∃ after visit, frugal.attend [listing] = some after ∧ erase.fate after = .returned visit ∧
        visit.returned.outcome = .ok true ∧ frugal.attend [listing, erase] = some visit.client ∧
        visit.client.pool.map Pool.idle = some 0 := by
  intro listing erase
  have created : Client.create frugal.settings = .ok (.ok frugal) := by decide +kernel
  exact ⟨created, frugal_unsaturated, _, _, rfl, rfl, rfl, rfl, by decide +kernel⟩

end Client

end KeyDepot
