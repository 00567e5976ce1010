import KeyDepot.Proofs.FrameSize
import KeyDepot.Proofs.KeyedTalk
import KeyDepot.Proofs.MapDatabase

namespace KeyDepot

/-- A call on one key of a database. -/
inductive KeyCall where
  | put (key value : Bytes)
  | get (key : Bytes) (maxSize : UInt64)
  | erase (key : Bytes)
  | length (key : Bytes)
  deriving DecidableEq, Repr, Inhabited

namespace KeyCall

variable {σ : Type} [Engine σ]

/-- The call as a client makes it on the database with this number. -/
@[reducible] def on (id : DatabaseId) : KeyCall → Call
  | put key value => .put id key value
  | get key maxSize => .get id key maxSize.toNat
  | erase key => .erase id key
  | length key => .length id key

/-- A value that was found, for a caller who accepts at most `maxSize` bytes. -/
def accept (maxSize : UInt64) : Option Bytes → Except Error (Option Bytes)
  | none => .ok none
  | some value =>
    if value.length ≤ maxSize.toNat then .ok (some value)
    else .error (.truncated (UInt64.ofNat value.length))

/-- The call made on the database itself. -/
def direct (id : DatabaseId) (call : KeyCall) (db : Database σ) :
    Outcome (Database σ) (call.on id).Answer :=
  match call with
  | put key value => db.perform (.put key value)
  | get key maxSize =>
    let (found, db) := db.perform (.get key)
    (found.bind (accept maxSize), db)
  | erase key => db.perform (.erase key)
  | length key =>
    let (found, db) := db.perform (.get key)
    (found.map fun value => value.map List.length, db)

/-- A client with this threshold can make the call. -/
def Affordable (threshold : Nat) : KeyCall → Prop
  | put key value => TransferMode.Carries key.length value.length threshold
  | get key maxSize => TransferMode.Carries key.length maxSize.toNat threshold
  | erase _ | length _ => True

instance (threshold : Nat) : (call : KeyCall) → Decidable (call.Affordable threshold)
  | put .. | get .. => inferInstanceAs (Decidable (TransferMode.Carries ..))
  | erase _ | length _ => inferInstanceAs (Decidable True)

/-- What a call came to. -/
abbrev Told (id : DatabaseId) :=
  (call : KeyCall) × Except Panic (Except Error (call.on id).Answer)

/-- Calls on the database itself, one after the other, by clients with thresholds. A call that its
client cannot make comes to a panic, and does not reach the database. -/
def directs (id : DatabaseId) : List (Nat × KeyCall) → Database σ → List (Told id) × Database σ
  | [], db => ([], db)
  | (threshold, call) :: rest, db =>
    if call.Affordable threshold then
      let (outcome, db) := call.direct id db
      let (others, db) := directs id rest db
      (⟨call, .ok outcome⟩ :: others, db)
    else
      let (others, db) := directs id rest db
      (⟨call, .error .capacityOverflow⟩ :: others, db)

end KeyCall

namespace Caller

variable {target : UInt8} {id : DatabaseId} {caller : Caller} {server : Server Store}
  {db : Database Store} {store : MapStore}

theorem counts_of_writable (found : server.database? target id = some db)
    (clear : caller.client.regions.ids = []) {key value : Bytes}
    (carries : TransferMode.Carries key.length value.length caller.client.settings.maxInline)
    (writable : ∀ frame ∈ (caller.talk target (.put id key value) server).frames,
      frame.Writable) : value.length ≤ Bytes.maxLength := by
  rcases value_said found clear carries with ⟨-, said⟩ | ⟨bulk, -⟩
  · have size := writable _ said
    rw [Frame.Writable, Frame.payloadSize_put] at size
    simp only [maxPayload, Bytes.maxLength] at size ⊢
    omega
  · exact carries bulk

/-- A put has a course, and its reply is read as what the put on the database gives. -/
theorem put_goes (found : server.database? target id = some db) (maps : db.Maps store)
    (clear : caller.client.regions.ids = []) {key value : Bytes}
    (carries : TransferMode.Carries key.length value.length caller.client.settings.maxInline) :
    ∃ frames reply grants,
      caller.Goes target id (.put id key value) server frames reply grants
        (db.perform (.put key value)).2 ∧
      (Call.put id key value).readReply (grants.map Grant.contents) reply =
        .ok ⟨(db.perform (.put key value)).1, {}⟩ := by
  have performed := maps.put key value
  have read (segments : List (List Bytes)) :
      (Call.put id key value).readReply segments (.ofPut (store.put key value).1) =
        .ok ⟨(db.perform (.put key value)).1, {}⟩ := by
    rw [performed]
    cases (store.put key value).1 <;> rfl
  cases mode : TransferMode.select key.length value.length caller.client.settings.maxInline with
  | inside => exact ⟨_, _, _, put_inside found clear mode performed, read _⟩
  | bulk => exact ⟨_, _, _, put_bulk found clear mode (carries mode) performed, read _⟩

/-- A get has a course, and its reply is read as the value that was found, for a caller who accepts
at most `maxSize` bytes. -/
theorem get_goes (found : server.database? target id = some db) (maps : db.Maps store)
    (counted : store.Counted) (clear : caller.client.regions.ids = []) {key : Bytes}
    {maxSize : UInt64}
    (carries : TransferMode.Carries key.length maxSize.toNat caller.client.settings.maxInline) :
    ∃ frames reply grants,
      caller.Goes target id (.get id key maxSize.toNat) server frames reply grants
        (db.perform (.get key)).2 ∧
      (Call.get id key maxSize.toNat).readReply (grants.map Grant.contents) reply =
        .ok ⟨KeyCall.accept maxSize (store.get key), {}⟩ := by
  have performed := maps.get key
  cases mode : TransferMode.select key.length maxSize.toNat caller.client.settings.maxInline with
  | inside =>
    refine ⟨_, _, _, get_inside found clear mode performed, ?_⟩
    cases store.get key with
    | none => rfl
    | some value =>
      by_cases fits : value.length ≤ maxSize.toNat
      · simp [Call.readReply, Reply.ofGet, KeyCall.accept, fits, Nat.not_lt.mpr fits, pure,
          Except.pure]
      · simp [Call.readReply, Reply.ofGet, KeyCall.accept, fits, Nat.not_le.mp fits, pure,
          Except.pure]
  | bulk =>
    have short := carries mode
    cases held : store.get key with
    | none =>
      rw [held] at performed
      exact ⟨_, _, _, get_bulk_without found clear mode short performed rfl, rfl⟩
    | some value =>
      rw [held] at performed
      have whole : (caller.room maxSize).total server.build = .ok maxSize :=
        Descriptor.total_single ..
      by_cases fits : value.length ≤ maxSize.toNat
      · refine ⟨_, _, _, get_bulk found clear mode short performed fits, ?_⟩
        rw [KeyCall.accept, if_pos fits]
        exact Call.readReply_pushed id key fits (Bytes.lt_of_le_maxLength (counted.get held))
      · have long : Server.sendValue server.build (caller.room maxSize) (some value) =
            Phase.answer (.bulkGot .truncated (UInt64.ofNat value.length)) := by
          simp only [Server.sendValue, whole, if_pos (Nat.not_le.mp fits)]
        refine ⟨_, _, _, get_bulk_without found clear mode short performed long, ?_⟩
        rw [KeyCall.accept, if_neg fits]
        rfl

theorem direct_get (maps : db.Maps store) (id : DatabaseId) (key : Bytes) (maxSize : UInt64) :
    (KeyCall.direct id (.get key maxSize) db).1 = KeyCall.accept maxSize (store.get key) := by
  simp only [KeyCall.direct, maps.get]
  rfl

/-- Each keyed call has a course on a map database, and its reply is read as what the call on the
database itself gives. -/
theorem keyed_goes (found : server.database? target id = some db) (maps : db.Maps store)
    (counted : store.Counted) (clear : caller.client.regions.ids = []) {call : KeyCall}
    (affordable : call.Affordable caller.client.settings.maxInline) :
    ∃ frames reply grants,
      caller.Goes target id (call.on id) server frames reply grants (call.direct id db).2 ∧
      (call.on id).readReply (grants.map Grant.contents) reply =
        .ok ⟨(call.direct id db).1, {}⟩ := by
  cases call with
  | put key value => exact put_goes found maps clear affordable
  | get key maxSize =>
    rw [direct_get maps]
    exact get_goes found maps counted clear affordable
  | erase key =>
    refine ⟨_, _, _, erase_goes found clear (maps.erase key), ?_⟩
    simp only [KeyCall.direct, maps.erase]
    cases (store.erase key).1 <;> rfl
  | length key =>
    refine ⟨_, _, _, length_goes found clear (maps.get key), ?_⟩
    simp only [KeyCall.direct, maps.get]
    cases held : store.get key with
    | none => rfl
    | some value =>
      have size : (UInt64.ofNat value.length).toNat = value.length :=
        UInt64.toNat_ofNat_of_lt' (Bytes.lt_of_le_maxLength (counted.get held))
      simp only [Reply.ofLength, Call.readReply, size]
      rfl

theorem direct_maps (maps : db.Maps store) (counted : store.Counted) (call : KeyCall)
    (counts : ∀ key value, call = .put key value → value.length ≤ Bytes.maxLength) :
    ∃ after, (call.direct id db).2.Maps after ∧ after.Counted := by
  cases call with
  | put key value => exact ⟨_, maps.after _, counted.put (counts key value rfl) key⟩
  | get key maxSize => exact ⟨_, maps.after (.get key), counted⟩
  | erase key => exact ⟨_, maps.after _, counted.erase key⟩
  | length key => exact ⟨_, maps.after (.get key), counted⟩

/-- What a keyed call over the network returns, and where it leaves both sides. -/
theorem call_keyed {active : Nat} (ready : caller.Ready active server)
    (found : server.database? target id = some db) (maps : db.Maps store)
    (counted : store.Counted) (clear : caller.client.regions.ids = []) {call : KeyCall}
    (affordable : call.Affordable caller.client.settings.maxInline)
    (writable : ∀ frame ∈ (caller.talk target (call.on id) server).frames, frame.Writable) :
    ∃ visit, caller.call .steady active target (call.on id) server = some visit ∧
      visit.returned.outcome = (call.direct id db).1 ∧
      visit.server.database? target id = some (call.direct id db).2 ∧
      server.Continues visit.server ∧
      visit.caller.idle = Line.quiet .idle :: caller.idle.tail ∧
      visit.caller.client.regions.ids = [] ∧
      visit.caller.client.settings = caller.client.settings ∧
      ∃ after, (call.direct id db).2.Maps after ∧ after.Counted := by
  obtain ⟨frames, reply, grants, goes, read⟩ := keyed_goes found maps counted clear affordable
  have used : (call.on id).misuse? = none := by cases call <;> rfl
  obtain ⟨after, called, idle, ids, settings⟩ :=
    call_settles ready used goes.toSettles read writable
  refine ⟨_, called, rfl, goes.database, goes.continues, idle, ids, settings,
    direct_maps maps counted call ?_⟩
  rintro key value rfl
  exact counts_of_writable found clear affordable writable

/-- A keyed call that the client cannot make panics before anything is said, and leaves both sides
as they are. -/
theorem call_panics {active : Nat} {network : Network} {call : KeyCall}
    (beyond : ¬ call.Affordable caller.client.settings.maxInline) :
    caller.fate network active target (call.on id) server =
      .panicked .capacityOverflow (caller, server) := by
  have used : (call.on id).misuse? = none := by cases call <;> rfl
  have unstaged : caller.client.stage (call.on id) = .error .capacityOverflow := by
    cases call with
    | put key value =>
      obtain ⟨bulk, long⟩ := Classical.not_imp.mp beyond
      exact Client.stage_put_panics bulk (Nat.not_le.mp long)
    | get key maxSize =>
      obtain ⟨bulk, long⟩ := Classical.not_imp.mp beyond
      exact Client.stage_get_panics bulk (Nat.not_le.mp long)
    | erase key => exact absurd trivial beyond
    | length key => exact absurd trivial beyond
  simp only [fate, used, unstaged]

end Caller

end KeyDepot
