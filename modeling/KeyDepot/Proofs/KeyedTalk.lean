import KeyDepot.Proofs.CallTalk
import KeyDepot.Proofs.Capacities

namespace KeyDepot

/-- A client with this threshold can send a value of this length, or take one: it travels inside,
or a buffer can hold it. -/
def TransferMode.Carries (keyLength valueLength threshold : Nat) : Prop :=
  select keyLength valueLength threshold = .bulk → valueLength ≤ Bytes.maxLength

instance (keyLength valueLength threshold : Nat) :
    Decidable (TransferMode.Carries keyLength valueLength threshold) :=
  inferInstanceAs (Decidable (_ → _))

variable {σ : Type} [Engine σ] {target : UInt8} {id : DatabaseId}

/-- A request that runs one operation of an open database, and goes on with transfers that are all
accepted. -/
theorem Server.talk_operation {server : Server σ} {db : Database σ}
    (found : server.database? target id = some db) {request : Request}
    (named : request.database? = some id) {operation : Operation}
    {next : operation.Answer → Phase × Option Frame}
    (begins : ∀ counted, server.Continues counted → counted.begin target id request =
      counted.runFor target id request.rpc operation next)
    {answer : operation.Answer} (performed : (db.perform operation).1 = .ok answer)
    {reply : Reply} {transfers : List Transfer}
    (goes : next answer = Phase.proceed request.rpc reply transfers)
    {regions final : Regions} (accepted : regions.accept? transfers = some final) :
    ∃ after, server.talk target request regions =
        { frames := .request target request :: (transfers.flatMap Transfer.frames ++ [.reply reply])
          reply := some reply, regions := final, last := ⟨after, .idle, some (.reply reply)⟩ } ∧
      after.database? target id = some (db.perform operation).2 ∧ server.Continues after := by
  obtain ⟨counted, begun, held, continues⟩ := Server.step_request found named
  obtain ⟨after, ran, changed, goesOn⟩ := Server.runFor_database held request.rpc operation next
  refine ⟨after, ?_, changed, continues.trans goesOn⟩
  have enough : transfers.length <
      (Phase.proceed request.rpc reply transfers).1.outstanding := by
    cases transfers with
    | nil => simp [Phase.proceed, Phase.answer, Phase.outstanding]
    | cons transfer rest =>
      cases transfer with
      | push region writes => simp [Phase.proceed, Phase.outstanding]
      | refuse cause => cases accepted
      | stop cause => cases accepted
  simp only [Server.talk, begun, begins counted continues, ran, performed, goes,
    Turn.talk_proceed after request.rpc reply accepted enough]

namespace Caller

/-- The course of a call: what is said, the reply, what the regions of the call come to, and the
database after it. -/
structure Goes (target : UInt8) (id : DatabaseId) (call : Call) (caller : Caller)
    (server : Server σ) (frames : List Frame) (reply : Reply) (grants : List Grant)
    (after : Database σ) : Prop extends caller.Settles target call server reply grants where
  said : (caller.talk target call server).frames = frames
  database : (caller.talk target call server).last.server.database? target id = some after

variable {caller : Caller} {server : Server σ} {db : Database σ}

/-- The course of a call that exposes some regions and runs one operation. -/
theorem goes_operation (found : server.database? target id = some db) {call : Call}
    {request : Request} (grants : List Grant) {client : Client}
    (staged : caller.client.stage call = .ok (⟨request, grants.map Grant.id⟩, client))
    (settings : client.settings = caller.client.settings)
    (distinct : (grants.map Grant.id).Nodup) (named : request.database? = some id)
    {operation : Operation} {next : operation.Answer → Phase × Option Frame}
    (begins : ∀ counted, server.Continues counted → counted.begin target id request =
      counted.runFor target id request.rpc operation next)
    {answer : operation.Answer} (performed : (db.perform operation).1 = .ok answer)
    {reply : Reply} (transfers : List Transfer)
    (goes : next answer = Phase.proceed request.rpc reply transfers) {final : Regions}
    (accepted : client.regions.accept? transfers = some final)
    (held : ∀ grant ∈ grants, final.Holds grant.id grant.access grant.contents)
    (only : ∀ id ∈ final.ids, id ∈ grants.map Grant.id) :
    caller.Goes target id call server
      (.request target request :: (transfers.flatMap Transfer.frames ++ [.reply reply])) reply
      grants (db.perform operation).2 := by
  obtain ⟨after, talked, changed, continues⟩ :=
    Server.talk_operation found named begins performed goes accepted
  have talk := (talk_staged staged).trans talked
  exact
    { replied := by rw [talk]
      idle := by rw [talk]
      continues := by rw [talk]; exact continues
      staged := ⟨request, client, staged, settings⟩
      distinct
      held := by rw [talk]; exact held
      only := by rw [talk]; exact only
      said := by rw [talk]
      database := by rw [talk]; exact changed }

/-- The course of a call that exposes nothing and is answered at once. -/
theorem goes_inside (found : server.database? target id = some db)
    (clear : caller.client.regions.ids = []) {call : Call} {request : Request}
    (staged : caller.client.stage call = .ok (⟨request, []⟩, caller.client))
    (named : request.database? = some id) {operation : Operation}
    {answered : operation.Answer → Reply}
    (begins : ∀ counted : Server σ, counted.begin target id request =
      counted.runFor target id request.rpc operation fun answer => Phase.answer (answered answer))
    {answer : operation.Answer} (performed : (db.perform operation).1 = .ok answer) :
    caller.Goes target id call server
      [.request target request, .reply (answered answer)] (answered answer) []
      (db.perform operation).2 :=
  goes_operation found [] staged rfl List.nodup_nil named (fun counted _ => begins counted)
    performed [] rfl rfl (by simp) (by simp [clear])

theorem put_inside (found : server.database? target id = some db)
    (clear : caller.client.regions.ids = []) {key value : Bytes}
    (inside : TransferMode.select key.length value.length caller.client.settings.maxInline =
      .inside) {stored : Bool} (performed : (db.perform (.put key value)).1 = .ok stored) :
    caller.Goes target id (.put id key value) server
      [.request target (.put id key value), .reply (.ofPut stored)] (.ofPut stored) []
      (db.perform (.put key value)).2 :=
  goes_inside found clear (by simp only [Client.stage, inside]; rfl) rfl (fun _ => rfl) performed

theorem get_inside (found : server.database? target id = some db)
    (clear : caller.client.regions.ids = []) {key : Bytes} {maxSize : UInt64}
    (inside : TransferMode.select key.length maxSize.toNat caller.client.settings.maxInline =
      .inside) {value : Option Bytes} (performed : (db.perform (.get key)).1 = .ok value) :
    caller.Goes target id (.get id key maxSize.toNat) server
      [.request target (.get id key maxSize), .reply (.ofGet value maxSize)]
      (.ofGet value maxSize) [] (db.perform (.get key)).2 := by
  have staged : caller.client.stage (.get id key maxSize.toNat) =
      .ok (⟨.get id key maxSize, []⟩, caller.client) := by
    simp only [Client.stage, inside, UInt64.ofNat_toNat]
    rfl
  exact goes_inside found clear staged rfl (fun _ => rfl) performed

theorem erase_goes (found : server.database? target id = some db)
    (clear : caller.client.regions.ids = []) {key : Bytes} {erased : Bool}
    (performed : (db.perform (.erase key)).1 = .ok erased) :
    caller.Goes target id (.erase id key) server
      [.request target (.erase id key), .reply (.ofErase erased)] (.ofErase erased) []
      (db.perform (.erase key)).2 :=
  goes_inside found clear rfl rfl (fun _ => rfl) performed

theorem length_goes (found : server.database? target id = some db)
    (clear : caller.client.regions.ids = []) {key : Bytes} {value : Option Bytes}
    (performed : (db.perform (.get key)).1 = .ok value) :
    caller.Goes target id (.length id key) server
      [.request target (.length id key), .reply (.ofLength value)] (.ofLength value) []
      (db.perform (.get key)).2 :=
  goes_inside found clear rfl rfl (fun _ => rfl) performed

/-- The number of the next region of a caller. -/
def nextRegion (caller : Caller) : UInt64 := UInt64.ofNat caller.client.regions.next

/-- The value to be stored, as a put describes it. -/
def offer (caller : Caller) (value : Bytes) : Descriptor :=
  ⟨caller.nextRegion, .readOnly, [UInt64.ofNat value.length]⟩

/-- The room for a value to be fetched, as a get describes it. -/
def room (caller : Caller) (maxSize : UInt64) : Descriptor :=
  ⟨caller.nextRegion, .writeOnly, [maxSize]⟩

/-- A put whose value is pulled, from its request to the value. -/
theorem put_bulk_pulls (found : server.database? target id = some db)
    (clear : caller.client.regions.ids = []) {key value : Bytes}
    (bulk : TransferMode.select key.length value.length caller.client.settings.maxInline =
      .bulk) (short : value.length ≤ Bytes.maxLength) :
    ∃ client counted, caller.client.stage (.put id key value) =
        .ok (⟨.bulkPut id key (caller.offer value), [caller.nextRegion]⟩, client) ∧
      client.settings = caller.client.settings ∧ client.regions.ids = [caller.nextRegion] ∧
      client.regions.Holds caller.nextRegion .readOnly [value] ∧
      counted.database? target id = some db ∧ server.Continues counted ∧
      let later := (counted.step (.pulling target id key (caller.offer value))
        (.ok (.bulkData [value]))).talk client.regions 2
      caller.talk target (.put id key value) server =
        { later with
          frames := .request target (.bulkPut id key (caller.offer value)) ::
            .bulkPull caller.nextRegion :: .bulkData [value] :: later.frames } := by
  obtain ⟨region, client, staged, exposes⟩ := Client.stage_put_bulk bulk short
  have offered : region.descriptor = caller.offer value := exposes.descriptor
  have number : region.id = caller.nextRegion := exposes.number
  have held := exposes.held
  rw [offered, number] at staged
  rw [number] at held
  obtain ⟨counted, begun, kept, continues⟩ := Server.step_request found
    (show (Request.bulkPut id key (caller.offer value)).database? = some id from rfl)
  have asks : counted.begin target id (.bulkPut id key (caller.offer value)) =
      ⟨counted, .pulling target id key (caller.offer value), some (.bulkPull caller.nextRegion)⟩ :=
    rfl
  refine ⟨client, counted, staged, exposes.settings, ?_, held, kept, continues, ?_⟩
  · rw [exposes.ids, clear, number]
  · rw [talk_staged staged]
    simp only [Server.talk, begun, asks, Phase.outstanding, Turn.talk, Regions.answer?,
      held.pull rfl]

/-- The value of a put either travels in its request or is pulled. -/
theorem value_said (found : server.database? target id = some db)
    (clear : caller.client.regions.ids = []) {key value : Bytes}
    (carries : TransferMode.Carries key.length value.length caller.client.settings.maxInline) :
    (TransferMode.select key.length value.length caller.client.settings.maxInline = .inside ∧
      .request target (.put id key value) ∈
        (caller.talk target (.put id key value) server).frames) ∨
    (TransferMode.select key.length value.length caller.client.settings.maxInline = .bulk ∧
      .request target (.bulkPut id key (caller.offer value)) ∈
        (caller.talk target (.put id key value) server).frames ∧
      .bulkData [value] ∈ (caller.talk target (.put id key value) server).frames) := by
  cases mode : TransferMode.select key.length value.length caller.client.settings.maxInline with
  | inside =>
    have staged : caller.client.stage (.put id key value) =
        .ok (⟨.put id key value, []⟩, caller.client) := by
      simp only [Client.stage, mode]
      rfl
    simp [talk_staged staged, Server.talk]
  | bulk =>
    obtain ⟨client, counted, -, -, -, -, -, -, talk⟩ :=
      put_bulk_pulls found clear mode (carries mode)
    simp [talk]

theorem put_replies (found : server.database? target id = some db)
    (clear : caller.client.regions.ids = []) {key value : Bytes} {stored : Bool}
    (carries : TransferMode.Carries key.length value.length caller.client.settings.maxInline)
    (performed : (db.perform (.put key value)).1 = .ok stored) :
    ∃ reply, (caller.talk target (.put id key value) server).reply = some reply := by
  cases mode : TransferMode.select key.length value.length caller.client.settings.maxInline with
  | inside => exact ⟨_, (put_inside found clear mode performed).replied⟩
  | bulk =>
    obtain ⟨client, counted, -, -, -, -, kept, -, pulls⟩ :=
      put_bulk_pulls found clear mode (carries mode)
    have answered (server : Server σ) (reply : Reply) : ((⟨server, (Phase.answer reply).1,
        (Phase.answer reply).2⟩ : Turn σ).talk client.regions 2).reply = some reply := by
      rw [Turn.talk_answer server reply client.regions Nat.two_pos]
    rw [pulls]
    simp only [Server.step, Server.stepPulling]
    split
    · obtain ⟨after, ran, -⟩ := Server.runFor_database kept .bulkPut (.put key [value].flatten)
        fun stored => Phase.answer (.ofPut stored)
      have whole : [value].flatten = value := by simp
      rw [ran, whole, performed]
      exact ⟨_, answered after (.ofPut stored)⟩
    · exact ⟨_, answered counted _⟩

theorem put_bulk (found : server.database? target id = some db)
    (clear : caller.client.regions.ids = []) {key value : Bytes}
    (bulk : TransferMode.select key.length value.length caller.client.settings.maxInline = .bulk)
    (short : value.length ≤ Bytes.maxLength) {stored : Bool}
    (performed : (db.perform (.put key value)).1 = .ok stored) :
    caller.Goes target id (.put id key value) server
      [.request target (.bulkPut id key (caller.offer value)), .bulkPull caller.nextRegion,
        .bulkData [value], .reply (.ofPut stored)]
      (.ofPut stored) [⟨caller.nextRegion, .readOnly, [value]⟩]
      (db.perform (.put key value)).2 := by
  obtain ⟨client, counted, staged, settings, ids, held, kept, continues, pulls⟩ :=
    put_bulk_pulls found clear bulk short
  obtain ⟨after, ran, changed, goesOn⟩ :=
    Server.runFor_database kept .bulkPut (.put key value) fun stored => Phase.answer (.ofPut stored)
  have promised : [value].map List.length = (caller.offer value).sizes.map UInt64.toNat := by
    simp only [offer, List.map_cons, List.map_nil,
      UInt64.toNat_ofNat_of_lt' (Bytes.lt_of_le_maxLength short)]
  have takes : counted.step (.pulling target id key (caller.offer value))
      (.ok (.bulkData [value])) =
        ⟨after, (Phase.answer (.ofPut stored)).1, (Phase.answer (.ofPut stored)).2⟩ := by
    have whole : [value].flatten = value := by simp
    simp only [Server.step, Server.stepPulling, promised, if_true]
    rw [whole, ran, performed]
  have talk : caller.talk target (.put id key value) server =
      { frames := [.request target (.bulkPut id key (caller.offer value)),
          .bulkPull caller.nextRegion, .bulkData [value], .reply (.ofPut stored)]
        reply := some (.ofPut stored), regions := client.regions
        last := ⟨after, .idle, some (.reply (.ofPut stored))⟩ } := by
    simp only [pulls, takes, Turn.talk_answer after (.ofPut stored) client.regions Nat.two_pos]
  exact
    { replied := by rw [talk]
      idle := by rw [talk]
      continues := by rw [talk]; exact continues.trans goesOn
      staged := ⟨_, client, staged, settings⟩
      distinct := by simp
      held := by
        rw [talk]
        intro grant member
        obtain rfl := List.mem_singleton.mp member
        exact held
      only := by
        rw [talk]
        simp [ids]
      said := by rw [talk]
      database := by rw [talk]; exact changed }

/-- A get whose value may be pushed looks the value up, on the server that has counted it. -/
theorem begin_get {counted : Server σ} (caller : Caller) (continues : server.Continues counted)
    {key : Bytes} {maxSize : UInt64} :
    counted.begin target id (.bulkGet id key (caller.room maxSize)) =
      counted.runFor target id .bulkGet (.get key)
        (Server.sendValue server.build (caller.room maxSize)) := by
  rw [← continues.build]
  rfl

/-- A get whose value is pushed. -/
theorem get_bulk (found : server.database? target id = some db)
    (clear : caller.client.regions.ids = []) {key : Bytes} {maxSize : UInt64}
    (bulk : TransferMode.select key.length maxSize.toNat caller.client.settings.maxInline = .bulk)
    (short : maxSize.toNat ≤ Bytes.maxLength) {value : Bytes}
    (performed : (db.perform (.get key)).1 = .ok (some value))
    (fits : value.length ≤ maxSize.toNat) :
    caller.Goes target id (.get id key maxSize.toNat) server
      [.request target (.bulkGet id key (caller.room maxSize)),
        .bulkPush caller.nextRegion (Bulk.scatter value [maxSize]), .bulkAck,
        .reply (.bulkGot .ok (UInt64.ofNat value.length))]
      (.bulkGot .ok (UInt64.ofNat value.length))
      [⟨caller.nextRegion, .writeOnly, [(Bytes.zeros maxSize.toNat).overwrite value]⟩]
      (db.perform (.get key)).2 := by
  obtain ⟨region, client, staged, exposes⟩ := Client.stage_get_bulk bulk short
  have offered : region.descriptor = caller.room maxSize :=
    exposes.descriptor.trans (by simp [room, nextRegion])
  have number : region.id = caller.nextRegion := exposes.number
  rw [offered, number] at staged
  have width : (Bytes.zeros maxSize.toNat).length = maxSize.toNat := Bytes.length_zeros _
  obtain ⟨writes, filled⟩ := Bulk.scatter_single width (width.symm ▸ fits)
  obtain ⟨after, pushed, held, ids, -⟩ := exposes.held.push rfl writes
  rw [filled] at held
  rw [number] at pushed held
  have accepted : client.regions.accept?
      [.push caller.nextRegion (Bulk.scatter value [maxSize])] = some after := by
    simp only [Regions.accept?, pushed]
  have whole : (caller.room maxSize).total server.build = .ok maxSize := Descriptor.total_single ..
  refine goes_operation found [⟨caller.nextRegion, .writeOnly, _⟩] staged exposes.settings
    (by simp) rfl (fun counted continues => begin_get caller continues) performed
    [.push caller.nextRegion (Bulk.scatter value [maxSize])] ?_ accepted ?_ ?_
  · simp only [Server.sendValue, whole, if_neg (Nat.not_lt.mpr fits)]
    rfl
  · intro grant member
    obtain rfl := List.mem_singleton.mp member
    exact held
  · simp [ids, exposes.ids, clear, number]

/-- A get that asks for a push and is answered without one. -/
theorem get_bulk_without (found : server.database? target id = some db)
    (clear : caller.client.regions.ids = []) {key : Bytes} {maxSize : UInt64}
    (bulk : TransferMode.select key.length maxSize.toNat caller.client.settings.maxInline = .bulk)
    (short : maxSize.toNat ≤ Bytes.maxLength) {value : Option Bytes}
    (performed : (db.perform (.get key)).1 = .ok value) {reply : Reply}
    (answered : Server.sendValue server.build (caller.room maxSize) value = Phase.answer reply) :
    caller.Goes target id (.get id key maxSize.toNat) server
      [.request target (.bulkGet id key (caller.room maxSize)), .reply reply] reply
      [⟨caller.nextRegion, .writeOnly, [Bytes.zeros maxSize.toNat]⟩]
      (db.perform (.get key)).2 := by
  obtain ⟨region, client, staged, exposes⟩ := Client.stage_get_bulk bulk short
  have offered : region.descriptor = caller.room maxSize :=
    exposes.descriptor.trans (by simp [room, nextRegion])
  have number : region.id = caller.nextRegion := exposes.number
  rw [offered, number] at staged
  have held := exposes.held
  rw [number] at held
  refine goes_operation found [⟨caller.nextRegion, .writeOnly, _⟩] staged exposes.settings
    (by simp) rfl (fun counted continues => begin_get caller continues) performed [] answered rfl
    ?_ ?_
  · intro grant member
    obtain rfl := List.mem_singleton.mp member
    exact held
  · simp [exposes.ids, clear, number]

end Caller

/-- A value that was pushed into the room for it is read back whole. -/
theorem Call.readReply_pushed (id : DatabaseId) (key : Bytes) {maxSize : Nat} {value : Bytes}
    (fits : value.length ≤ maxSize) (counts : value.length < 2 ^ 64) :
    (Call.get id key maxSize).readReply [[(Bytes.zeros maxSize).overwrite value]]
      (.bulkGot .ok (UInt64.ofNat value.length)) = .ok ⟨.ok (some value), {}⟩ := by
  have room : value.length ≤ (Bytes.zeros maxSize).length := by rwa [Bytes.length_zeros]
  have size : (UInt64.ofNat value.length).toNat = value.length :=
    UInt64.toNat_ofNat_of_lt' counts
  have width : ((Bytes.zeros maxSize).overwrite value).length = maxSize := by simp
  simp only [readReply, List.headD_cons, size, width, if_pos fits, Bytes.take_overwrite room]
  rfl

end KeyDepot
