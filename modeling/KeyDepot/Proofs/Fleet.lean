import Mathlib.Algebra.Order.BigOperators.Group.Finset
import KeyDepot.Proofs.KeyedCalls

/-! The clients of one server, each with settings and pools of its own, that call one at a time. To
them the server is the database itself: nothing of the way a value travels can be told from what the
calls return. -/

namespace KeyDepot

/-- Clients of one server, by number. -/
structure Fleet (n : Nat) (σ : Type) where
  callers : Fin n → Caller
  server : Server σ

namespace Fleet

variable {n : Nat} {σ : Type}

/-- The lines the server serves now. -/
def active (fleet : Fleet n σ) : Nat := ∑ who, (fleet.callers who).openLines

section Calls

variable [Engine σ] (target : UInt8) (id : DatabaseId)

/-- One of the clients makes a call. -/
def fate (who : Fin n) (call : Call) (fleet : Fleet n σ) :
    Fate (Returned call × Fleet n σ) (Fleet n σ) :=
  let after (caller : Caller) (server : Server σ) : Fleet n σ :=
    ⟨Function.update fleet.callers who caller, server⟩
  ((fleet.callers who).fate .steady fleet.active target call fleet.server).map
    (fun visit => (visit.returned, after visit.caller visit.server))
    fun (caller, server) => after caller server

/-- Calls on single keys of a database, one after the other; none when one waits for ever. A call
that panics is over, and the next one is made. -/
def run : List (Fin n × KeyCall) → Fleet n σ → Option (List (KeyCall.Told id) × Fleet n σ)
  | [], fleet => some ([], fleet)
  | (who, call) :: rest, fleet =>
    match fleet.fate target who (call.on id) with
    | .waits => none
    | .panicked cause fleet =>
      (run rest fleet).map fun (others, fleet) => (⟨call, .error cause⟩ :: others, fleet)
    | .returned (returned, fleet) =>
      (run rest fleet).map fun (others, fleet) => (⟨call, .ok returned.outcome⟩ :: others, fleet)

/-- Every frame that is said in these calls, in order. -/
def frames : List (Fin n × KeyCall) → Fleet n σ → List Frame
  | [], _ => []
  | (who, call) :: rest, fleet =>
    ((fleet.callers who).talk target (call.on id) fleet.server).frames ++
      match fleet.fate target who (call.on id) with
      | .waits => []
      | .panicked _ fleet => frames rest fleet
      | .returned (_, fleet) => frames rest fleet

end Calls

/-- A call with the threshold of the client that makes it. -/
def withThreshold (fleet : Fleet n σ) (step : Fin n × KeyCall) : Nat × KeyCall :=
  ((fleet.callers step.1).client.settings.maxInline, step.2)

/-- Between calls: nothing is on its way, nothing is exposed, and the server has room for a line to
each client. -/
structure Quiet (fleet : Fleet n σ) : Prop where
  still : ∀ who, ∀ line ∈ (fleet.callers who).idle, line = Line.quiet .idle
  single : ∀ who, (fleet.callers who).idle.length ≤ 1
  clear : ∀ who, (fleet.callers who).client.regions.ids = []
  running : fleet.server.stopped = false
  room : n ≤ fleet.server.settings.maxConnections

theorem quiet_of_fresh {fleet : Fleet n σ}
    (fresh : ∀ who, ∃ settings, Client.create settings = .ok (.ok (fleet.callers who).client))
    (unused : ∀ who, (fleet.callers who).idle = []) (running : fleet.server.stopped = false)
    (room : n ≤ fleet.server.settings.maxConnections) : fleet.Quiet where
  still who line member := by simp [unused who] at member
  single who := by simp [unused who]
  clear who := by
    obtain ⟨settings, created⟩ := fresh who
    have regions : (fleet.callers who).client.regions = {} := by
      simp only [Client.create] at created
      split at created
      · exact congrArg Client.regions (Except.ok.inj (Except.ok.inj created)).symm
      · obtain ⟨made, -, same⟩ := map_eq_ok_iff.mp created
        obtain ⟨pool, -, client⟩ := map_eq_ok_iff.mp same
        exact congrArg Client.regions client.symm
    rw [regions]
    rfl
  running := running
  room := room

/-- A fleet stays quiet when one client has put its line back and taken its regions back. -/
theorem Quiet.after {fleet : Fleet n σ} (quiet : fleet.Quiet) (who : Fin n) {caller : Caller}
    {server : Server σ} (continues : fleet.server.Continues server)
    (idle : caller.idle = Line.quiet .idle :: (fleet.callers who).idle.tail)
    (clear : caller.client.regions.ids = []) :
    (⟨Function.update fleet.callers who caller, server⟩ : Fleet n σ).Quiet := by
  have tail : (fleet.callers who).idle.tail = [] := by
    have few := quiet.single who
    exact List.eq_nil_of_length_eq_zero (by rw [List.length_tail]; omega)
  rw [tail] at idle
  have each (property : Caller → Prop) (own : property caller)
      (others : ∀ other, property (fleet.callers other)) (other : Fin n) :
      property (Function.update fleet.callers who caller other) := by
    by_cases same : other = who
    · subst same
      rwa [Function.update_self]
    · rw [Function.update_of_ne same]
      exact others other
  exact
    { still := each (fun caller => ∀ line ∈ caller.idle, line = Line.quiet .idle)
        (by simp [idle]) quiet.still
      single := each (fun caller => caller.idle.length ≤ 1) (by simp [idle]) quiet.single
      clear := each (fun caller => caller.client.regions.ids = []) clear quiet.clear
      running := continues.stopped.trans quiet.running
      room := by
        show n ≤ server.settings.maxConnections
        rw [continues.settings]
        exact quiet.room }

theorem Quiet.ready {fleet : Fleet n σ} (quiet : fleet.Quiet) (who : Fin n) :
    (fleet.callers who).Ready fleet.active fleet.server where
  quiet := quiet.still who
  running := quiet.running
  served := by
    intro none
    have fewer : fleet.active < ∑ _who : Fin n, 1 := by
      apply Finset.sum_lt_sum
      · exact fun other _ => (List.length_filter_le ..).trans (quiet.single other)
      · exact ⟨who, Finset.mem_univ who, by simp [Caller.openLines, none]⟩
    have less : fleet.active < n := by simpa using fewer
    simp [Server.accepts, quiet.running, Nat.lt_of_lt_of_le less quiet.room]

section Runs

variable {fleet : Fleet n Store} {target : UInt8} {id : DatabaseId} {db : Database Store}
  {store : MapStore}

/-- A call of a quiet fleet that its client can make. -/
theorem fate_keyed (quiet : fleet.Quiet) (found : fleet.server.database? target id = some db)
    (maps : db.Maps store) (counted : store.Counted) {who : Fin n} {call : KeyCall}
    (affordable : call.Affordable (fleet.callers who).client.settings.maxInline)
    (writable : ∀ frame ∈ ((fleet.callers who).talk target (call.on id) fleet.server).frames,
      frame.Writable) :
    ∃ returned after, fleet.fate target who (call.on id) = .returned (returned, after) ∧
      returned.outcome = (call.direct id db).1 ∧
      after.server.database? target id = some (call.direct id db).2 ∧ after.Quiet ∧
      after.withThreshold = fleet.withThreshold ∧
      ∃ stored, (call.direct id db).2.Maps stored ∧ stored.Counted := by
  obtain ⟨visit, called, outcome, held, continues, idle, ids, settings, stored⟩ :=
    Caller.call_keyed (quiet.ready who) found maps counted (quiet.clear who) affordable writable
  have returned := Fate.returned?_eq_some.mp called
  refine ⟨visit.returned, ⟨Function.update fleet.callers who visit.caller, visit.server⟩,
    by simp [fate, returned, Fate.map], outcome, held, quiet.after who continues idle ids, ?_,
    stored⟩
  funext ⟨other, asked⟩
  by_cases same : other = who
  · subst same
    simp [withThreshold, settings]
  · simp [withThreshold, Function.update_of_ne same]

theorem fate_panics {who : Fin n} {call : KeyCall}
    (beyond : ¬ call.Affordable (fleet.callers who).client.settings.maxInline) :
    fleet.fate target who (call.on id) = .panicked .capacityOverflow fleet := by
  simp only [fate, Caller.call_panics beyond, Fate.map, Function.update_eq_self]

/-- Calls of a quiet fleet one after the other. -/
theorem run_keyed (quiet : fleet.Quiet) (found : fleet.server.database? target id = some db)
    (maps : db.Maps store) (counted : store.Counted) (steps : List (Fin n × KeyCall))
    (writable : ∀ frame ∈ fleet.frames target id steps, frame.Writable) :
    ∃ after, fleet.run target id steps =
        some ((KeyCall.directs id (steps.map fleet.withThreshold) db).1, after) ∧
      after.server.database? target id =
        some (KeyCall.directs id (steps.map fleet.withThreshold) db).2 ∧
      after.Quiet ∧
      ∃ stored, (KeyCall.directs id (steps.map fleet.withThreshold) db).2.Maps stored ∧
        stored.Counted := by
  induction steps generalizing fleet db store with
  | nil => exact ⟨fleet, rfl, found, quiet, store, maps, counted⟩
  | cons step rest ih =>
    obtain ⟨who, call⟩ := step
    by_cases affordable : call.Affordable (fleet.callers who).client.settings.maxInline
    · obtain ⟨returned, later, called, outcome, held, still, same, stored, goesOn, counts⟩ :=
        fate_keyed quiet found maps counted affordable fun frame said =>
          writable frame (List.mem_append_left _ said)
      obtain ⟨after, ran, rest⟩ := ih still held goesOn counts fun frame said => by
        apply writable frame
        simp only [frames, called]
        exact List.mem_append_right _ said
      rw [same] at ran rest
      simp only [List.map_cons, withThreshold, KeyCall.directs, if_pos affordable]
      refine ⟨after, ?_, rest⟩
      simp only [run, called, ran, outcome, Option.map_some]
    · have panics : fleet.fate target who (call.on id) = .panicked .capacityOverflow fleet :=
        fate_panics affordable
      obtain ⟨after, ran, rest⟩ := ih quiet found maps counted fun frame said => by
        apply writable frame
        simp only [frames, panics]
        exact List.mem_append_right _ said
      simp only [List.map_cons, withThreshold, KeyCall.directs, if_neg affordable]
      refine ⟨after, ?_, rest⟩
      simp only [run, panics, ran, Option.map_some]

end Runs

end Fleet

/-- A get that is refused with the size of the value is not refused with that size, which a sequence
can have. -/
theorem KeyCall.direct_retry {id : DatabaseId} {db : Database Store} {store : MapStore}
    (maps : db.Maps store) (counted : store.Counted) {key : Bytes} {limit size : UInt64}
    (refused : (KeyCall.direct id (.get key limit) db).1 = .error (.truncated size)) :
    ∃ value, (KeyCall.direct id (.get key size) (KeyCall.direct id (.get key limit) db).2).1 =
        .ok (some value) ∧
      value.length = size.toNat ∧ limit < size ∧ size.toNat ≤ Bytes.maxLength := by
  have same : (KeyCall.direct id (.get key limit) db).2.Maps store := maps.after (.get key)
  rw [Caller.direct_get maps] at refused
  rw [Caller.direct_get same]
  cases held : store.get key with
  | none => simp [held, KeyCall.accept] at refused
  | some value =>
    rw [held, KeyCall.accept] at refused
    split at refused
    · cases refused
    · rename_i long
      have short := counted.get held
      have width : (UInt64.ofNat value.length).toNat = value.length :=
        UInt64.toNat_ofNat_of_lt' (Bytes.lt_of_le_maxLength short)
      obtain rfl : UInt64.ofNat value.length = size :=
        Error.truncated.inj (Except.error.inj refused)
      refine ⟨value, by simp [KeyCall.accept, width], width.symm, ?_, by rwa [width]⟩
      rw [UInt64.lt_iff_toNat_lt, width]
      exact Nat.not_le.mp long

namespace Fleet

/-- For the clients of a quiet fleet the server is the database itself: calls made one after the
other return what the same calls on the database give, and leave it in the same state. Only a call
that no buffer of its client could serve panics, and changes nothing. A get that was refused with
the size of the value can be made again with that size by any of them. -/
theorem run_eq_directs {n : Nat} {fleet : Fleet n Store} {target : UInt8} {id : DatabaseId}
    {db : Database Store} {store : MapStore} (quiet : fleet.Quiet)
    (found : fleet.server.database? target id = some db) (maps : db.Maps store)
    (counted : store.Counted) (steps : List (Fin n × KeyCall))
    (writable : ∀ frame ∈ fleet.frames target id steps, frame.Writable) :
    let posed := steps.map fleet.withThreshold
    ∃ after, fleet.run target id steps = some ((KeyCall.directs id posed db).1, after) ∧
      after.server.database? target id = some (KeyCall.directs id posed db).2 ∧ after.Quiet ∧
      ∀ who other key limit size,
        let retry := [(who, .get key limit), (other, .get key size)]
        (∀ frame ∈ after.frames target id retry, frame.Writable) →
        (KeyCall.direct id (.get key limit) (KeyCall.directs id posed db).2).1 =
          .error (.truncated size) →
        ∃ value final, value.length = size.toNat ∧ after.run target id retry =
          some ([⟨.get key limit, .ok (.error (.truncated size))⟩,
            ⟨.get key size, .ok (.ok (some value))⟩], final) := by
  intro posed
  obtain ⟨after, ran, held, still, stored, goesOn, counts⟩ :=
    run_keyed quiet found maps counted steps writable
  refine ⟨after, ran, held, still, ?_⟩
  intro who other key limit size retry said refused
  simp only [posed] at refused
  obtain ⟨final, again, -⟩ := run_keyed still held goesOn counts retry said
  obtain ⟨value, accepted, width, less, short⟩ := KeyCall.direct_retry goesOn counts refused
  have first (threshold : Nat) : (KeyCall.get key limit).Affordable threshold :=
    fun _ => (UInt64.le_of_lt less).trans short
  have second (threshold : Nat) : (KeyCall.get key size).Affordable threshold := fun _ => short
  refine ⟨value, final, width, ?_⟩
  rw [again]
  simp only [retry, List.map_cons, List.map_nil, withThreshold, KeyCall.directs,
    if_pos (first _), if_pos (second _), refused, accepted]

/-- Settings under which every value travels through a region, from pools. -/
def pooledSettings : Settings :=
  { maxInline := 0
    pool := some { pools := 2, buffers := 1, firstSize := 2, multiple := 4 } }

/-- A client with pools whose values all travel through regions. -/
def pooled : Client where
  settings := pooledSettings
  pool := some { classes := [⟨2, [⟨2, []⟩]⟩, ⟨8, [⟨8, []⟩]⟩], room := 1 }

/-- A client with pools, and one with the usual settings. -/
def pair : Fleet 2 Store where
  callers who := if who = 0 then { client := pooled } else {}
  server := .ofEngine (Store.map { options := { duplicates := .allow } })

theorem pair_quiet : pair.Quiet := by
  apply quiet_of_fresh
  · intro who
    by_cases first : who = 0
    · exact ⟨pooledSettings, by simp only [pair, if_pos first]; rfl⟩
    · exact ⟨{}, by simp only [pair, if_neg first]; rfl⟩
  · intro who
    by_cases first : who = 0 <;> simp [pair, first]
  · rfl
  · decide

/-- A value put by one client is too long for the other at first, and is taken away at last. The
other can ask for no more than a buffer holds. -/
theorem run_eq_directs_pair :
    let steps : List (Fin 2 × KeyCall) :=
      [(0, .put [7] [1, 2, 3]), (1, .get [7] 2), (0, .get [7] 3), (1, .length [7]),
        (1, .get [7] 9223372036854775808), (0, .erase [7]), (1, .get [7] 9)]
    (∀ frame ∈ pair.frames 1 ⟨1⟩ steps, frame.Writable) ∧
    ∃ after, pair.run 1 ⟨1⟩ steps =
        some ([⟨.put [7] [1, 2, 3], .ok (.ok true)⟩, ⟨.get [7] 2, .ok (.error (.truncated 3))⟩,
          ⟨.get [7] 3, .ok (.ok (some [1, 2, 3]))⟩, ⟨.length [7], .ok (.ok (some 3))⟩,
          ⟨.get [7] 9223372036854775808, .error .capacityOverflow⟩, ⟨.erase [7], .ok (.ok true)⟩,
          ⟨.get [7] 9, .ok (.ok none)⟩], after) ∧ after.Quiet := by
  intro steps
  have writable : ∀ frame ∈ pair.frames 1 ⟨1⟩ steps, frame.Writable := by decide +kernel
  obtain ⟨after, ran, -, still, -⟩ := run_eq_directs pair_quiet
    (Server.database?_ofEngine _) (Database.ofEngine_maps _)
    (fun entry member => by cases member) steps writable
  exact ⟨writable, after, ran.trans rfl, still⟩

/-- A client with the usual settings, and one whose values all travel inside. -/
def unlike : Fleet 2 Store where
  callers who :=
    if who = 0 then {} else { client := { settings := { maxInline := TransferMode.maxSize } } }
  server := .ofEngine (Store.map { options := {} })

theorem unlike_quiet : unlike.Quiet := by
  apply quiet_of_fresh
  · intro who
    by_cases first : who = 0
    · exact ⟨{}, by simp only [unlike, if_pos first]; rfl⟩
    · exact ⟨{ maxInline := TransferMode.maxSize }, by simp only [unlike, if_neg first]; rfl⟩
  · intro who
    by_cases first : who = 0 <;> simp [unlike, first]
  · rfl
  · decide

/-- The way a value travels can be told: of two clients that accept a value of any length, the one
that makes room for it first does not return. -/
theorem get_of_any_length_panics :
    let steps : List (Fin 2 × KeyCall) :=
      [(0, .put [7] [1]), (0, .get [7] 9223372036854775808), (1, .get [7] 9223372036854775808)]
    (∀ frame ∈ unlike.frames 1 ⟨1⟩ steps, frame.Writable) ∧
    ∃ after db, unlike.run 1 ⟨1⟩ steps =
        some ([⟨.put [7] [1], .ok (.ok true)⟩,
          ⟨.get [7] 9223372036854775808, .error .capacityOverflow⟩,
          ⟨.get [7] 9223372036854775808, .ok (.ok (some [1]))⟩], after) ∧
      after.server.database? 1 ⟨1⟩ = some db ∧
      (KeyCall.direct ⟨1⟩ (.get [7] 9223372036854775808) db).1 = .ok (some [1]) := by
  intro steps
  have writable : ∀ frame ∈ unlike.frames 1 ⟨1⟩ steps, frame.Writable := by decide +kernel
  obtain ⟨after, ran, held, -⟩ := run_keyed unlike_quiet (Server.database?_ofEngine _)
    (Database.ofEngine_maps _) (fun entry member => by cases member) steps writable
  exact ⟨writable, after, _, ran.trans rfl, held, rfl⟩

end Fleet

end KeyDepot
