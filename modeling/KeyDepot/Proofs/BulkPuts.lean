import KeyDepot.Proofs.CallFootprint
import KeyDepot.Proofs.MapDatabase

/-! Puts in bulk. The server asks for the value and checks the answer against the descriptor before
the engine is asked. So the value is put whole, as by a put that carries it, or nothing changes. -/

namespace KeyDepot

namespace Server

variable {σ : Type} {server : Server σ} {target : UInt8} {id : DatabaseId}

theorem kept?_of_database? {db : Database σ} (found : server.database? target id = some db) :
    server.kept? target id = some db := by
  obtain ⟨provider, known, opened⟩ := database?_eq_some found
  rw [kept?, known, Option.bind_some, Registry.kept?, opened]
  rfl

theorem counting_same (target : UInt8) (rpc : Rpc) (server : Server σ) :
    server.SameDatabases (server.counting target rpc) := by
  rw [counting]
  split
  · exact fun _ _ => rfl
  · rename_i provider known
    exact update_record known rpc

variable [Engine σ]

theorem step_named {db : Database σ} (found : server.database? target id = some db)
    {request : Request} (named : request.database? = some id) :
    server.step .idle (.ok (.request target request)) =
      (server.counting target request.rpc).begin target id request := by
  obtain ⟨provider, known, opened⟩ := database?_eq_some found
  rw [counting_of_some known]
  exact dispatch_opened named known opened

end Server

namespace Connection

variable {σ : Type} [Engine σ]

theorem advance_speaks {phase : Phase} {reading : Reading} {server : Server σ} {frame : Frame}
    (said : (server.step phase reading).said = some frame) (writable : frame.Writable) :
    advance phase reading server =
      ⟨(server.step phase reading).server,
        (server.step phase reading).server.settle (server.step phase reading).phase,
        frame.form⟩ := by
  simp only [advance, write, said, Frame.encode_of_writable writable]

end Connection

theorem Frame.writable_pull (region : UInt64) : (bulkPull region).Writable := by
  show 8 ≤ maxPayload
  decide

theorem Frame.writable_ack (status : Status) : (reply (.ack status)).Writable := by
  cases status <;> decide

/-- Two ends of a call that are the same to its caller, and leave the same databases. -/
structure Progress.Matches {σ : Type} (progress other : Progress σ) : Prop where
  written : progress.written = other.written
  phase : progress.phase = other.phase
  databases : other.server.SameDatabases progress.server

namespace Connection

variable {target : UInt8} {id : DatabaseId} {key value : Bytes} {db : Database Store}
  {store : MapStore} {server : Server Store} {progress other : Progress Store}

/-- The value was put under the key, the put was answered, and the connection waits for the next
call. -/
structure Stores (target : UInt8) (id : DatabaseId) (key value : Bytes) (db : Database Store)
    (store : MapStore) (server : Server Store) (progress : Progress Store) : Prop where
  written : progress.written = (Frame.reply (.ofPut (store.put key value).1)).form
  phase : progress.phase = server.settle .idle
  kept : progress.server.kept? target id = some { db with store := .map (store.put key value).2 }
  others : ∀ other number, ¬ (other = target ∧ number = id) →
    progress.server.kept? other number = server.kept? other number

theorem Stores.matches (stores : Stores target id key value db store server progress)
    (others : Stores target id key value db store server other) : progress.Matches other := by
  refine ⟨stores.written.trans others.written.symm, stores.phase.trans others.phase.symm, ?_⟩
  intro provider number
  by_cases here : provider = target ∧ number = id
  · obtain ⟨rfl, rfl⟩ := here
    rw [stores.kept, others.kept]
  · rw [stores.others provider number here, others.others provider number here]

theorem advance_stores {phase : Phase} {reading : Reading} {counted : Server Store} {rpc : Rpc}
    (puts : server.step phase reading = counted.runFor target id rpc (.put key value) fun stored =>
      Phase.answer (.ofPut stored))
    (same : server.SameDatabases counted) (continues : server.Continues counted)
    (held : server.kept? target id = some db) (maps : db.Maps store) :
    Stores target id key value db store server (advance phase reading server) := by
  have running := (continues.trans (Server.runFor_continues target id rpc (.put key value)
    (fun stored => Phase.answer (.ofPut stored)) counted)).stopped
  rcases counted.runFor_cases target id rpc (.put key value)
    (fun stored => Phase.answer (.ofPut stored)) with
    ⟨missing, -⟩ | ⟨there, found, kept, others, ends⟩
  · rw [same, held] at missing
    cases missing
  · rw [same, held] at found
    obtain rfl := Option.some.inj found
    rw [maps.put] at ends
    rcases ends with ⟨error, failed, -⟩ | ⟨stored, answered, goes⟩
    · cases failed
    · obtain rfl := Except.ok.inj answered
      obtain ⟨waits, spoken⟩ := Prod.mk.inj goes
      rw [← puts] at running kept others waits spoken
      rw [advance_speaks spoken (Frame.writable_ack _)]
      refine ⟨rfl, ?_, ?_, ?_⟩
      · simp only [waits, Server.settle, running]
      · rw [kept, maps.perform]
        rfl
      · intro provider number apart
        rw [others provider number apart, same]

/-- The value did not come: nothing changes, and the connection waits for the next call. -/
structure Declines (server : Server Store) (progress : Progress Store) : Prop where
  unchanged : progress.server = server
  written : progress.written = (Frame.reply (.ack .bulkFailure)).form
  phase : progress.phase = server.settle .idle

theorem advance_declines {phase : Phase} {reading : Reading} {fault : TransportFault}
    (fails : server.step phase reading = server.failWith .bulkPut (.transport fault)) :
    Declines server (advance phase reading server) := by
  have turn : server.step phase reading = ⟨server, .idle, some (.reply (.ack .bulkFailure))⟩ :=
    fails
  rw [advance_speaks (by rw [turn]) (Frame.writable_ack .bulkFailure), turn]
  exact ⟨rfl, rfl, rfl⟩

/-- What an answer to the pull of a value for a put comes to. -/
def Concludes (target : UInt8) (id : DatabaseId) (key : Bytes) (source : Descriptor)
    (reading : Reading) (db : Database Store) (store : MapStore) (server : Server Store)
    (progress : Progress Store) : Prop :=
  match reading with
  | .ok (.bulkData segments) =>
    if segments.map List.length = source.sizes.map UInt64.toNat then
      Stores target id key segments.flatten db store server progress ∧
        (server.database? target id = some db → progress.Matches
          (advance .idle (.ok (.request target (.put id key segments.flatten))) server))
    else Declines server progress
  | .ok (.bulkDenied _) => Declines server progress
  | _ => progress.server = server

theorem advance_put (found : server.database? target id = some db) (maps : db.Maps store)
    (key value : Bytes) :
    Stores target id key value db store server
      (advance .idle (.ok (.request target (.put id key value))) server) :=
  advance_stores (Server.step_named found rfl) (Server.counting_same target .put server)
    (Server.counting_continues target .put server) (Server.kept?_of_database? found) maps

theorem advance_pulling (held : server.kept? target id = some db) (maps : db.Maps store)
    (key : Bytes) (source : Descriptor) (reading : Reading) :
    Concludes target id key source reading db store server
      (advance (.pulling target id key source) reading server) := by
  cases reading with
  | error error => exact advance_server ..
  | ok frame =>
    cases frame with
    | bulkData segments =>
      simp only [Concludes]
      split
      · rename_i whole
        have stores : Stores target id key segments.flatten db store server
            (advance (.pulling target id key source) (.ok (.bulkData segments)) server) :=
          advance_stores (by rw [Server.step, Server.stepPulling, if_pos whole])
            (fun _ _ => rfl) (.refl server) held maps
        exact ⟨stores, fun found => stores.matches (advance_put found maps key segments.flatten)⟩
      · rename_i differs
        exact advance_declines (by rw [Server.step, Server.stepPulling, if_neg differs])
    | bulkDenied reason => exact advance_declines rfl
    | _ => exact advance_server ..

/-- A bulk put is all or nothing. Nothing is asked for a descriptor that may not be read. Otherwise
the value is put, and the put answered, as if it had come with the request, when the answer delivers
segments of exactly the sizes promised; whatever else the answer is, nothing changes. -/
theorem bulk_put_all_or_nothing {opened : Database Store}
    (found : server.database? target id = some opened) (key : Bytes) (source : Descriptor) :
    let asked := advance .idle (.ok (.request target (.bulkPut id key source))) server
    server.SameDatabases asked.server ∧
      (source.access.readable = false →
        asked.written = (Frame.reply (.ack .invalidRequest)).form ∧
          asked.phase = server.settle .idle) ∧
      (source.access.readable = true →
        asked.written = (Frame.bulkPull source.region).form ∧
          ∀ (now : Server Store) (db : Database Store) (store : MapStore) (reading : Reading),
            now.kept? target id = some db → db.Maps store →
              Concludes target id key source reading db store now
                (advance asked.phase reading now)) := by
  have begun : server.step .idle (.ok (.request target (.bulkPut id key source))) =
      (server.counting target .bulkPut).begin target id (.bulkPut id key source) :=
    Server.step_named found rfl
  have same := Server.counting_same target .bulkPut server
  have running := (Server.counting_continues target .bulkPut server).stopped
  generalize server.counting target .bulkPut = counted at begun same running
  cases readable : source.access.readable with
  | false =>
    have refused : server.step .idle (.ok (.request target (.bulkPut id key source))) =
        ⟨counted, .idle, some (.reply (.ack .invalidRequest))⟩ := by
      rw [begun, Server.begin, readable]
      rfl
    rw [advance_speaks (by rw [refused]) (Frame.writable_ack .invalidRequest), refused]
    refine ⟨same, fun _ => ⟨rfl, ?_⟩, by rintro ⟨⟩⟩
    simp only [Server.settle, running]
  | true =>
    have asks : server.step .idle (.ok (.request target (.bulkPut id key source))) =
        ⟨counted, .pulling target id key source, some (.bulkPull source.region)⟩ := by
      rw [begun, Server.begin, readable]
      rfl
    rw [advance_speaks (by rw [asks]) (Frame.writable_pull source.region), asks,
      Server.settle_under_way rfl]
    refine ⟨same, by rintro ⟨⟩, fun _ => ⟨rfl, ?_⟩⟩
    intro now db store reading held maps
    exact advance_pulling held maps key source reading

/-- Two segments are promised. Of two answers with as many bytes in all, only the one with segments
of the promised sizes is taken. -/
theorem bulk_put_all_or_nothing_halves :
    let server := Server.ofEngine (Store.map { options := {} })
    let asked := advance .idle
      (.ok (.request 1 (.bulkPut ⟨1⟩ [9] ⟨7, .readOnly, [1, 2]⟩))) server
    server.database? 1 ⟨1⟩ = some (.ofEngine (.map { options := {} })) ∧
      asked.written = (Frame.bulkPull 7).form ∧
      Declines asked.server (advance asked.phase (.ok (.bulkData [[5, 6], [7]])) asked.server) ∧
      Stores 1 ⟨1⟩ [9] [5, 6, 7] (.ofEngine (.map { options := {} })) { options := {} } asked.server
        (advance asked.phase (.ok (.bulkData [[5], [6, 7]])) asked.server) := by
  intro server asked
  have found : server.database? 1 ⟨1⟩ = some (.ofEngine (.map { options := {} })) :=
    Server.database?_ofEngine _
  obtain ⟨same, -, readable⟩ := bulk_put_all_or_nothing found [9] ⟨7, .readOnly, [1, 2]⟩
  obtain ⟨pulls, answers⟩ := readable rfl
  have held : asked.server.kept? 1 ⟨1⟩ = some (.ofEngine (.map { options := {} })) := by
    rw [same, Server.kept?_of_database? found]
  have ends := fun reading => answers asked.server _ _ reading held (Database.ofEngine_maps _)
  exact ⟨found, pulls, ends (.ok (.bulkData [[5, 6], [7]])),
    (ends (.ok (.bulkData [[5], [6, 7]]))).1⟩

end Connection

end KeyDepot
