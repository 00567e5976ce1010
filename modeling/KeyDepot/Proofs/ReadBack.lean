import KeyDepot.Proofs.KeyedCalls

namespace KeyDepot

/-- The frames of a get that is made this way, for a key and a value of these lengths, are within
the limit. -/
def Fetchable (keyLength valueLength : Nat) : TransferMode → Prop
  | .inside => 24 + valueLength ≤ maxPayload
  | .bulk => 49 + keyLength ≤ maxPayload ∧ 28 + valueLength ≤ maxPayload

instance (keyLength valueLength : Nat) :
    (mode : TransferMode) → Decidable (Fetchable keyLength valueLength mode)
  | .inside => inferInstanceAs (Decidable (24 + valueLength ≤ maxPayload))
  | .bulk =>
    inferInstanceAs (Decidable (49 + keyLength ≤ maxPayload ∧ 28 + valueLength ≤ maxPayload))

/-- Under the order every map has by default each key is equal to itself. -/
theorem Bytes.order_self (key : Bytes) : Bytes.order key key = .eq := by
  induction key with
  | nil => rfl
  | cons byte rest ih =>
    simp only [Bytes.order, List.compareLex] at ih ⊢
    simp [ih]

theorem MapStore.get_put {store : MapStore} (usual : store.order = none) {key value : Bytes}
    (stored : (store.put key value).1 = true) :
    (store.put key value).2.get key = some value := by
  simp only [put] at stored ⊢
  split
  · rename_i refused
    simp [refused] at stored
  · simp only [get, comparison, usual]
    exact Entries.find?_insert (Bytes.order_self key)

theorem Frame.writable_push (region size : UInt64) {value : Bytes}
    (fits : value.length ≤ size.toNat) :
    (Frame.bulkPush region (Bulk.scatter value [size])).Writable ↔
      28 + value.length ≤ maxPayload := by
  rw [Frame.Writable, Frame.payloadSize_bulkPush]
  cases value with
  | nil => simp [Bulk.scatter, Bulk.scatterFrom, maxPayload]
  | cons byte rest =>
    have whole : (byte :: rest).take size.toNat = byte :: rest := List.take_of_length_le fits
    simp only [Bulk.scatter, Bulk.scatterFrom, List.isEmpty_cons, Bool.false_eq_true, if_false,
      whole, List.map_cons, List.map_nil, List.sum_cons, List.sum_nil]
    omega

namespace Caller

variable {target : UInt8} {id : DatabaseId} {caller : Caller} {server : Server Store}
  {db : Database Store} {store : MapStore}

/-- The frames a get of a value is made of, and what their limit comes to. -/
theorem get_course (found : server.database? target id = some db) (maps : db.Maps store)
    (clear : caller.client.regions.ids = []) {key value : Bytes} (held : store.get key = some value)
    (counts : value.length ≤ Bytes.maxLength) (asked : 29 + key.length ≤ maxPayload)
    {maxSize : UInt64} (enough : value.length ≤ maxSize.toNat)
    (carries : TransferMode.Carries key.length maxSize.toNat caller.client.settings.maxInline) :
    ∃ frames reply grants,
      caller.Goes target id (.get id key maxSize.toNat) server frames reply grants
        (db.perform (.get key)).2 ∧
      (Call.get id key maxSize.toNat).readReply (grants.map Grant.contents) reply =
        .ok ⟨.ok (some value), {}⟩ ∧
      ((∀ frame ∈ frames, frame.Writable) ↔ Fetchable key.length value.length
        (TransferMode.select key.length maxSize.toNat caller.client.settings.maxInline)) := by
  have performed := maps.get key
  rw [held] at performed
  cases mode : TransferMode.select key.length maxSize.toNat caller.client.settings.maxInline with
  | inside =>
    have answered : Reply.ofGet (some value) maxSize =
        .got .ok value (UInt64.ofNat value.length) := by
      simp only [Reply.ofGet, if_neg (Nat.not_lt.mpr enough)]
    have goes := get_inside found clear mode performed
    rw [answered] at goes
    refine ⟨_, _, _, goes, rfl, ?_⟩
    simp [Frame.Writable, Frame.payloadSize_get, Frame.payloadSize_got, Fetchable, asked]
  | bulk =>
    refine ⟨_, _, _, get_bulk found clear mode (carries mode) performed enough,
      Call.readReply_pushed id key enough (Bytes.lt_of_le_maxLength counts), ?_⟩
    have requested : (Frame.request target (.bulkGet id key (caller.room maxSize))).Writable ↔
        49 + key.length ≤ maxPayload := by
      rw [Frame.Writable, Frame.payloadSize_bulkGet]
      simp only [Descriptor.count, room, List.length_singleton]
      omega
    have acknowledged : Frame.bulkAck.Writable := by decide
    have replied : (Frame.reply (.bulkGot .ok (UInt64.ofNat value.length))).Writable := by
      show 16 ≤ maxPayload
      decide
    simp [requested, Frame.writable_push caller.nextRegion maxSize enough, acknowledged, replied,
      Fetchable]

/-- A get of a value that is held returns it exactly when its frames are within the limit. -/
theorem get_held {active : Nat} (ready : caller.Ready active server)
    (found : server.database? target id = some db) (maps : db.Maps store)
    (clear : caller.client.regions.ids = []) {key value : Bytes} (held : store.get key = some value)
    (counts : value.length ≤ Bytes.maxLength) (asked : 29 + key.length ≤ maxPayload)
    {maxSize : UInt64} (enough : value.length ≤ maxSize.toNat)
    (carries : TransferMode.Carries key.length maxSize.toNat caller.client.settings.maxInline) :
    let mode := TransferMode.select key.length maxSize.toNat caller.client.settings.maxInline
    ∃ visit, caller.call .steady active target (.get id key maxSize.toNat) server = some visit ∧
      (visit.returned.outcome = .ok (some value) ↔ Fetchable key.length value.length mode) ∧
      (¬ Fetchable key.length value.length mode →
        ∃ error, visit.returned.outcome = .error error) := by
  intro mode
  obtain ⟨frames, reply, grants, goes, read, limit⟩ :=
    get_course found maps clear held counts asked enough carries
  rw [← goes.said] at limit
  by_cases fits : Fetchable key.length value.length mode
  · obtain ⟨after, called, -⟩ := call_settles ready rfl goes.toSettles read (limit.mpr fits)
    exact ⟨_, called, iff_of_true rfl fits, fun large => absurd fits large⟩
  · obtain ⟨visit, error, called, failed⟩ := call_fails ready rfl goes.replied
      fun writable => fits (limit.mp writable)
    exact ⟨visit, called, iff_of_false (by simp [failed]) fits, fun _ => ⟨error, failed⟩⟩

theorem carries_of_put {network : Network} {active : Nat} {key value : Bytes}
    {visit : Visited (.put id key value) Store}
    (put : caller.call network active target (.put id key value) server = some visit) :
    TransferMode.Carries key.length value.length caller.client.settings.maxInline := by
  intro bulk
  by_contra long
  have panics : caller.client.stage (.put id key value) = .error .capacityOverflow :=
    Client.stage_put_panics bulk (Nat.not_le.mp long)
  simp [Caller.call, fate, Call.misuse?, panics, Fate.returned?] at put

/-- What a put that succeeded tells of its key and value, and where it leaves both sides. -/
theorem put_accepted {active : Nat} (ready : caller.Ready active server)
    (found : server.database? target id = some db) (maps : db.Maps store)
    (clear : caller.client.regions.ids = []) {key value : Bytes}
    {visit : Visited (.put id key value) Store}
    (put : caller.call .steady active target (.put id key value) server = some visit)
    (accepted : visit.returned.outcome = .ok true) :
    29 + key.length ≤ maxPayload ∧ value.length ≤ Bytes.maxLength ∧
      (store.put key value).1 = true ∧
      visit.server.database? target id = some (db.perform (.put key value)).2 ∧
      (∀ others, visit.caller.Ready others visit.server) ∧
      visit.caller.client.regions.ids = [] ∧
      visit.caller.client.settings = caller.client.settings := by
  have carries := carries_of_put put
  by_cases writable : ∀ frame ∈ (caller.talk target (.put id key value) server).frames,
      frame.Writable
  · obtain ⟨frames, reply, grants, goes, read⟩ := put_goes found maps clear carries
    obtain ⟨after, called, idle, ids, settings⟩ :=
      call_settles ready rfl goes.toSettles read writable
    obtain rfl := Option.some.inj (put.symm.trans called)
    have direct : (db.perform (.put key value)).1 = .ok true := accepted
    rw [maps.put] at direct
    refine ⟨?_, counts_of_writable found clear carries writable, Except.ok.inj direct,
      goes.database, ready.after goes.continues idle, ids, settings⟩
    rcases value_said found clear carries with ⟨-, said⟩ | ⟨-, said, -⟩
    · have size := writable _ said
      rw [Frame.Writable, Frame.payloadSize_put] at size
      omega
    · have size := writable _ said
      rw [Frame.Writable, Frame.payloadSize_bulkPut] at size
      simp only [Descriptor.count, offer, List.length_singleton] at size
      omega
  · obtain ⟨reply, replied⟩ := put_replies found clear carries (maps.put key value)
    obtain ⟨other, error, called, failed⟩ := call_fails ready rfl replied writable
    obtain rfl : visit = other := Option.some.inj (put.symm.trans called)
    rw [accepted] at failed
    cases failed

/-- A put whose value is pulled is carried out when its frames are within the limit. -/
theorem put_within {active : Nat} (ready : caller.Ready active server)
    (found : server.database? target id = some db) (maps : db.Maps store)
    (clear : caller.client.regions.ids = []) {key value : Bytes}
    (bulk : TransferMode.select key.length value.length caller.client.settings.maxInline = .bulk)
    (asked : 49 + key.length ≤ maxPayload) (carried : 16 + value.length ≤ maxPayload) :
    ∃ visit, caller.call .steady active target (.put id key value) server = some visit ∧
      visit.returned.outcome = .ok (store.put key value).1 := by
  have short : value.length ≤ Bytes.maxLength := by
    simp only [maxPayload, Bytes.maxLength] at carried ⊢
    omega
  have goes := put_bulk found clear bulk short (maps.put key value)
  have requested : (Frame.request target (.bulkPut id key (caller.offer value))).Writable := by
    rw [Frame.Writable, Frame.payloadSize_bulkPut]
    simp only [Descriptor.count, offer, List.length_singleton]
    omega
  have pulled : (Frame.bulkPull caller.nextRegion).Writable := by
    show 8 ≤ maxPayload
    decide
  have data : (Frame.bulkData [value]).Writable := by
    rw [Frame.Writable, Frame.payloadSize_bulkData]
    simp only [List.map_cons, List.map_nil, List.sum_cons, List.sum_nil]
    omega
  have replied : (Frame.reply (.ofPut (store.put key value).1)).Writable := by
    show 8 ≤ maxPayload
    decide
  have writable : ∀ frame ∈ (caller.talk target (.put id key value) server).frames,
      frame.Writable := by
    rw [goes.said]
    simp [requested, pulled, data, replied]
  have read : (Call.put id key value).readReply
      ([⟨caller.nextRegion, .readOnly, [value]⟩].map Grant.contents)
      (.ofPut (store.put key value).1) = .ok ⟨.ok (store.put key value).1, {}⟩ := by
    cases (store.put key value).1 <;> rfl
  obtain ⟨after, called, -⟩ := call_settles ready rfl goes.toSettles read writable
  exact ⟨_, called, rfl⟩

/-- A value that was put and accepted is returned to any client that asks for it, the one that put
it among them, exactly when the frames of the get are within the limit too; otherwise the get
fails. A client that asks for more than a buffer can hold gets nothing. -/
theorem get_after_put {active others : Nat} (ready : caller.Ready active server)
    (found : server.database? target id = some db) (maps : db.Maps store)
    (usual : store.order = none) (clear : caller.client.regions.ids = []) {key value : Bytes}
    {visit : Visited (.put id key value) Store}
    (put : caller.call .steady active target (.put id key value) server = some visit)
    (accepted : visit.returned.outcome = .ok true) {later : Server Store}
    (unchanged : later.database? target id = visit.server.database? target id)
    {reader : Caller} (readable : reader.Ready others later)
    (free : reader.client.regions.ids = []) {maxSize : UInt64}
    (enough : value.length ≤ maxSize.toNat) :
    let threshold := reader.client.settings.maxInline
    let mode := TransferMode.select key.length maxSize.toNat threshold
    ((∀ others, visit.caller.Ready others visit.server) ∧
      visit.caller.client.regions.ids = [] ∧
      visit.caller.client.settings = caller.client.settings) ∧
    (TransferMode.Carries key.length maxSize.toNat threshold →
      ∃ again, reader.call .steady others target (.get id key maxSize.toNat) later = some again ∧
        (again.returned.outcome = .ok (some value) ↔ Fetchable key.length value.length mode) ∧
        (¬ Fetchable key.length value.length mode →
          ∃ error, again.returned.outcome = .error error)) ∧
    (¬ TransferMode.Carries key.length maxSize.toNat threshold →
      reader.fate .steady others target (.get id key maxSize.toNat) later =
        .panicked .capacityOverflow (reader, later)) := by
  obtain ⟨asked, counts, stored, kept, rested⟩ := put_accepted ready found maps clear put accepted
  refine ⟨rested, fun carries => ?_, fun beyond => ?_⟩
  · exact get_held readable (unchanged.trans kept) (maps.after _) free
      (MapStore.get_put usual stored) counts asked enough carries
  · have unaffordable : ¬ (KeyCall.get key maxSize).Affordable reader.client.settings.maxInline :=
      beyond
    exact call_panics unaffordable

theorem select_usual {settings : Settings} (usual : settings = {}) {length : Nat}
    (long : 4000 < length) :
    TransferMode.select ([] : Bytes).length length settings.maxInline = .bulk := by
  subst usual
  have more : ¬ TransferMode.messageSize 0 length ≤ TransferMode.usualThreshold := by
    simp only [TransferMode.messageSize, TransferMode.overhead, TransferMode.maxSize,
      TransferMode.usualThreshold, UInt64.size]
    omega
  exact if_neg more

/-- A client that has just been made puts a long value into an empty map. -/
theorem put_usual {value : Bytes} (long : 4000 < value.length)
    (carried : 16 + value.length ≤ maxPayload) :
    ∃ visit, ({} : Caller).call .steady 0 1 (.put ⟨1⟩ [] value)
        (.ofEngine (Store.map { options := {} })) = some visit ∧
      visit.returned.outcome = .ok true :=
  have ready : ({} : Caller).Ready 0 (.ofEngine (Store.map { options := {} })) :=
    ready_of_unused rfl rfl rfl
  have asked : 49 + ([] : Bytes).length ≤ maxPayload := by decide
  put_within ready (Server.database?_ofEngine _) (Database.ofEngine_maps _) rfl
    (select_usual rfl long) asked carried

/-- The longest value that comes back to the client that put it. -/
theorem get_after_put_longest :
    ∃ visit again, ({} : Caller).call .steady 0 1 (.put ⟨1⟩ [] (Bytes.zeros 67108836))
        (.ofEngine (Store.map { options := {} })) = some visit ∧
      visit.returned.outcome = .ok true ∧
      visit.caller.call .steady 0 1 (.get ⟨1⟩ [] 67108836) visit.server = some again ∧
      again.returned.outcome = .ok (some (Bytes.zeros 67108836)) := by
  have length : (Bytes.zeros 67108836).length = 67108836 := Bytes.length_zeros _
  generalize Bytes.zeros 67108836 = value at length
  have ready : ({} : Caller).Ready 0 (.ofEngine (Store.map { options := {} })) :=
    ready_of_unused rfl rfl rfl
  obtain ⟨visit, put, accepted⟩ := @put_usual value (by omega) (by rw [length]; decide)
  obtain ⟨-, -, -, -, still, clear, settings⟩ :=
    put_accepted ready (Server.database?_ofEngine _) (Database.ofEngine_maps _) rfl put accepted
  have enough : value.length ≤ (67108836 : UInt64).toNat := by rw [length]; decide
  obtain ⟨-, returns, -⟩ := get_after_put ready (Server.database?_ofEngine _)
    (Database.ofEngine_maps _) rfl rfl put accepted rfl (still 0) clear enough
  obtain ⟨again, got, whole, -⟩ := returns fun _ => by decide
  have bulk := select_usual settings (show 4000 < (67108836 : UInt64).toNat by decide)
  refine ⟨visit, again, put, accepted, got, whole.mpr ?_⟩
  rw [bulk, length]
  decide

/-- Twelve bytes more are accepted by the put, and do not come back. -/
theorem longest_put_not_read_back :
    ∃ visit again error, ({} : Caller).call .steady 0 1 (.put ⟨1⟩ [] (Bytes.zeros 67108848))
        (.ofEngine (Store.map { options := {} })) = some visit ∧
      visit.returned.outcome = .ok true ∧
      visit.caller.call .steady 0 1 (.get ⟨1⟩ [] 67108848) visit.server = some again ∧
      again.returned.outcome = .error error := by
  have length : (Bytes.zeros 67108848).length = 67108848 := Bytes.length_zeros _
  generalize Bytes.zeros 67108848 = value at length
  have ready : ({} : Caller).Ready 0 (.ofEngine (Store.map { options := {} })) :=
    ready_of_unused rfl rfl rfl
  obtain ⟨visit, put, accepted⟩ := @put_usual value (by omega) (by rw [length]; decide)
  obtain ⟨asked, counts, stored, kept, still, clear, settings⟩ :=
    put_accepted ready (Server.database?_ofEngine _) (Database.ofEngine_maps _) rfl put accepted
  have enough : value.length ≤ (67108848 : UInt64).toNat := by rw [length]; decide
  obtain ⟨again, got, -, fails⟩ := get_held (still 0) kept ((Database.ofEngine_maps _).after _)
    clear (MapStore.get_put rfl stored) counts asked enough fun _ => by decide
  have bulk := select_usual settings (show 4000 < (67108848 : UInt64).toNat by decide)
  have large : ¬ Fetchable ([] : Bytes).length value.length (TransferMode.select
      ([] : Bytes).length (67108848 : UInt64).toNat visit.caller.client.settings.maxInline) := by
    rw [bulk, length]
    decide
  obtain ⟨error, failed⟩ := fails large
  exact ⟨visit, again, error, put, accepted, got, failed⟩

end Caller

end KeyDepot
