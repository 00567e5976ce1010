import KeyDepot.Proofs.CallFootprint
import KeyDepot.Storage.Store

namespace KeyDepot

variable {σ : Type}

/-- A call that travels without regions. -/
inductive PlainCall where
  | openName (name : String)
  | put (db : DatabaseId) (key value : Bytes)
  | get (db : DatabaseId) (key : Bytes) (maxSize : UInt64)
  | erase (db : DatabaseId) (key : Bytes)
  | length (db : DatabaseId) (key : Bytes)
  deriving DecidableEq, Repr, Inhabited

/-- The call as it is written. -/
def PlainCall.request : PlainCall → Request
  | openName name => .openName name
  | put db key value => .put db key value
  | get db key maxSize => .get db key maxSize
  | erase db key => .erase db key
  | length db key => .length db key

/-- A call on a provider. -/
structure Posted where
  target : UInt8
  call : PlainCall
  deriving DecidableEq, Repr, Inhabited

def Posted.frame (posted : Posted) : Frame := .request posted.target posted.call.request

/-- The reply to a call whose operation came to this. -/
def Reply.ofOutcome {α : Type} (rpc : Rpc) (reply : α → Reply) : Except Error α → Reply
  | .ok answer => reply answer
  | .error error => .failure rpc error.replyStatus

namespace Server

section Execution

variable [Engine σ]

/-- Asks a database that is open, and replies with what it answers. -/
def ask (target : UInt8) (id : DatabaseId) (rpc : Rpc) (operation : Operation)
    (reply : operation.Answer → Reply) (server : Server σ) : Reply × Server σ :=
  match server.database? target id, server.perform? target id operation with
  | some _, some (outcome, after) => (.ofOutcome rpc reply outcome, after)
  | _, _ => (.failure rpc .unknownDatabase, server)

/-- What a call comes to, and the server after it. -/
def execute (posted : Posted) (server : Server σ) : Reply × Server σ :=
  let rpc := posted.call.request.rpc
  let target := posted.target
  match server.provider? target with
  | none => (.failure rpc .unknownProvider, server)
  | some provider =>
    let counted := server.update (provider.record rpc)
    match posted.call with
    | .openName name =>
      match provider.registry.find? name with
      | some id => (.opened .ok (some id), counted)
      | none => (.failure rpc .unknownDatabase, counted)
    | .put id key value => counted.ask target id rpc (.put key value) .ofPut
    | .get id key maxSize => counted.ask target id rpc (.get key) fun found => .ofGet found maxSize
    | .erase id key => counted.ask target id rpc (.erase key) .ofErase
    | .length id key => counted.ask target id rpc (.get key) .ofLength

/-- Calls one after the other, each on the server as the one before has left it. -/
def executeAll : List Posted → Server σ → List Reply × Server σ
  | [], server => ([], server)
  | posted :: rest, server =>
    let (reply, server) := server.execute posted
    let (others, server) := executeAll rest server
    (reply :: others, server)

end Execution

end Server

/-- The engine answers, or fails in a way that leaves the connection of the call alone, as long as
its state is one of these. -/
structure Engine.Mild [Engine σ] (mild : σ → Prop) : Prop where
  fails : ∀ operation store error, mild store →
    (Engine.perform operation store).1 = .error error → error.breaksConnection = false
  stays : ∀ operation store, mild store → mild (Engine.perform operation store).2

theorem putAll_mild {put : Bytes → Bytes → σ → Outcome σ Bool}
    (fails : ∀ key value state error, (put key value state).1 = .error error →
      error.breaksConnection = false) {items : List (Bytes × Bytes)} {state : σ} {error : Error}
    (failed : (putAll put items state).1 = .error error) : error.breaksConnection = false := by
  induction items generalizing state with
  | nil => cases failed
  | cons item rest ih =>
    obtain ⟨key, value⟩ := item
    simp only [putAll] at failed
    split at failed
    · rename_i broke _ stored
      obtain rfl := Except.error.inj failed
      exact fails key value state broke (congrArg Prod.fst stored)
    · split at failed
      · cases failed
      · rename_i others
        obtain rfl := Except.error.inj failed
        exact ih (congrArg Prod.fst others)

theorem putBatch_mild {put : Bytes → Bytes → σ → Outcome σ Bool}
    (fails : ∀ key value state error, (put key value state).1 = .error error →
      error.breaksConnection = false) {keys values : List Bytes} {state : σ} {error : Error}
    (failed : (putBatch put keys values state).1 = .error error) :
    error.breaksConnection = false := by
  simp only [putBatch] at failed
  split at failed
  · exact putAll_mild fails failed
  · obtain rfl := Except.error.inj failed
    rfl

theorem DurableStore.withMap_mild {τ α : Type} {run : τ → α × τ} {store : DurableStore τ}
    {error : Error} (failed : (store.withMap run).1 = .error error) :
    error.breaksConnection = false := by
  simp only [withMap] at failed
  split at failed
  · obtain rfl := Except.error.inj failed
    rfl
  · cases failed

namespace Store

/-- Every engine at hand but the one that fails on demand. -/
def Dependable : Store → Prop
  | .brittle _ => False
  | _ => True

theorem mild : Engine.Mild Dependable where
  fails operation store error dependable failed := by
    cases store with
    | map store =>
      have told : (MapStore.perform operation store).1 = .error error := failed
      cases operation with
      | putMulti keys values =>
        simp only [MapStore.perform] at told
        split at told
        · cases told
        · obtain rfl := Except.error.inj told
          rfl
      | _ => cases told
    | null store =>
      have told : (NullStore.perform operation store).1 = .error error := failed
      cases operation with
      | putMulti keys values =>
        refine putBatch_mild ?_ told
        rintro _ _ _ _ ⟨⟩
      | _ => cases told
    | durable store =>
      have told : (DurableStore.perform operation store).1 = .error error := failed
      cases operation with
      | putMulti keys values =>
        exact putBatch_mild (fun _ _ _ _ => DurableStore.withMap_mild) told
      | _ => exact DurableStore.withMap_mild told
    | brittle store => cases dependable
  stays operation store dependable := by
    cases store <;> trivial

end Store

/-- An engine of these states behind every database. -/
def Server.Holds (mild : σ → Prop) (server : Server σ) : Prop :=
  ∀ target id db, server.kept? target id = some db → mild db.store

section Mildness

variable [Engine σ] {mild : σ → Prop}

theorem Database.perform_mild (engines : Engine.Mild mild) {db : Database σ} (holds : mild db.store)
    (operation : Operation) :
    (∀ error, (db.perform operation).1 = .error error → error.breaksConnection = false) ∧
      mild (db.perform operation).2.store := by
  simp only [perform]
  split
  · refine ⟨?_, holds⟩
    rintro _ ⟨⟩
    rfl
  · exact ⟨fun error => engines.fails operation db.store error holds,
      engines.stays operation db.store holds⟩

namespace Server

omit [Engine σ] in
theorem Holds.of_same {server after : Server σ} (holds : server.Holds mild)
    (same : server.SameDatabases after) : after.Holds mild := by
  intro target id db kept
  rw [same] at kept
  exact holds target id db kept

omit [Engine σ] in
theorem holds_ofEngine {engine : σ} (holds : mild engine) : (ofEngine engine).Holds mild := by
  intro target id db kept
  obtain ⟨provider, known, held⟩ := Option.bind_eq_some_iff.mp kept
  obtain rfl := List.mem_singleton.mp (List.mem_of_find?_eq_some known)
  simp only [Registry.kept?, Registry.get?, List.find?_nil, Option.orElse_eq_orElse,
    Option.orElse_eq_or, Option.or_none] at held
  obtain rfl := List.mem_singleton.mp (List.mem_of_find?_eq_some held)
  exact holds

theorem Holds.runFor (engines : Engine.Mild mild) {server : Server σ} (holds : server.Holds mild)
    (target : UInt8) (id : DatabaseId) (rpc : Rpc) (operation : Operation)
    (next : operation.Answer → Phase × Option Frame) :
    (server.runFor target id rpc operation next).server.Holds mild := by
  rcases server.runFor_cases target id rpc operation next with
    ⟨-, still, -⟩ | ⟨db, held, changed, others, -⟩
  · rw [still]
    exact holds
  · intro other number known kept
    by_cases its : other = target ∧ number = id
    · obtain ⟨rfl, rfl⟩ := its
      obtain rfl := Option.some.inj (changed.symm.trans kept)
      exact (Database.perform_mild engines (holds _ _ db held) operation).2
    · rw [others other number its] at kept
      exact holds other number known kept

theorem Holds.dispatch (engines : Engine.Mild mild) {server : Server σ} (holds : server.Holds mild)
    (target : UInt8) (request : Request) :
    (server.dispatch target request).server.Holds mild := by
  cases server.dispatch_carries target request with
  | aside same serves tells => exact holds.of_same same
  | runs same named answers asked clean ran =>
    rw [ran]
    exact (holds.of_same same).runFor engines _ _ _ _ _

end Server

end Mildness

namespace Server

variable [Engine σ] {mild : σ → Prop} {server : Server σ}

theorem runFor_ask (engines : Engine.Mild mild) (holds : server.Holds mild) {target : UInt8}
    {id : DatabaseId} {db : Database σ} (found : server.database? target id = some db) (rpc : Rpc)
    (operation : Operation) (reply : operation.Answer → Reply) :
    let asked := server.ask target id rpc operation reply
    server.runFor target id rpc operation (fun answer => Phase.answer (reply answer)) =
      ⟨asked.2, .idle, some (.reply asked.1)⟩ := by
  obtain ⟨after, performed, -⟩ := perform?_database found operation
  have kept : server.kept? target id = some db := by
    obtain ⟨provider, known, opened⟩ := database?_eq_some found
    simp [kept?, known, Registry.kept?, opened]
  have fails := (Database.perform_mild engines (holds target id db kept) operation).1
  simp only [ask, runFor, found, performed]
  cases outcome : (db.perform operation).1 with
  | ok answer => rfl
  | error error => simp [Phase.fail, fails error outcome, Phase.answer, Reply.ofOutcome]

omit [Engine σ] in
theorem database?_counted {target : UInt8} {provider : Provider σ}
    (known : server.provider? target = some provider) (rpc : Rpc) (id : DatabaseId) :
    (server.update (provider.record rpc)).database? target id = provider.registry.get? id := by
  have named := Provider.id_of_provider? known
  have counted : (server.update (provider.record rpc)).provider? target =
      some (provider.record rpc) := provider?_update known named
  rw [database?, counted]
  rfl

theorem dispatch_ask (engines : Engine.Mild mild) (holds : server.Holds mild) {target : UInt8}
    {provider : Provider σ} (known : server.provider? target = some provider) {request : Request}
    {id : DatabaseId} (named : request.database? = some id) {operation : Operation}
    {reply : operation.Answer → Reply}
    (begins : ∀ server : Server σ, server.begin target id request =
      server.runFor target id request.rpc operation fun answer => Phase.answer (reply answer)) :
    let asked := (server.update (provider.record request.rpc)).ask target id request.rpc operation
      reply
    server.dispatch target request = ⟨asked.2, .idle, some (.reply asked.1)⟩ := by
  have counted := database?_counted known request.rpc id
  cases opened : provider.registry.get? id with
  | none =>
    rw [opened] at counted
    simp only [dispatch_missing named known opened, ask, counted]
  | some db =>
    rw [dispatch_opened named known opened, begins]
    exact runFor_ask engines (holds.of_same (update_record known request.rpc))
      (counted.trans opened) ..

theorem step_executes (engines : Engine.Mild mild) (holds : server.Holds mild) (posted : Posted) :
    server.step .idle (.ok posted.frame) =
      ⟨(server.execute posted).2, .idle, some (.reply (server.execute posted).1)⟩ := by
  obtain ⟨target, call⟩ := posted
  simp only [Posted.frame, step, stepIdle]
  cases known : server.provider? target with
  | none => simp only [dispatch, execute, known]
  | some provider =>
    cases call with
    | openName name =>
      simp only [PlainCall.request, dispatch, execute, known]
      cases provider.registry.find? name <;> rfl
    | put | get | erase | length =>
      simp only [execute, known]
      exact dispatch_ask engines holds known rfl fun _ => rfl

theorem Holds.execute (engines : Engine.Mild mild) (holds : server.Holds mild) (posted : Posted) :
    (server.execute posted).2.Holds mild := by
  have dispatched : (server.step .idle (.ok posted.frame)).server.Holds mild :=
    holds.dispatch engines posted.target posted.call.request
  rwa [step_executes engines holds] at dispatched

theorem execute_continues (engines : Engine.Mild mild) (holds : server.Holds mild)
    (posted : Posted) : server.Continues (server.execute posted).2 := by
  have goesOn : posted.frame ≠ .shutdown := nofun
  have continues := step_continues goesOn .idle server
  rwa [step_executes engines holds] at continues

/-- The reply to a call is what the call comes to on the server as the calls before it have left
it. -/
theorem executeAll_getElem? (calls : List Posted) (number : Nat) (server : Server σ) :
    (server.executeAll calls).1[number]? = calls[number]?.map fun posted =>
      ((server.executeAll (calls.take number)).2.execute posted).1 := by
  induction calls generalizing number server with
  | nil => rfl
  | cons posted rest ih =>
    cases number with
    | zero => rfl
    | succ number => exact ih number (server.execute posted).2

theorem length_executeAll (calls : List Posted) (server : Server σ) :
    (server.executeAll calls).1.length = calls.length := by
  induction calls generalizing server with
  | nil => rfl
  | cons posted rest ih => exact congrArg Nat.succ (ih (server.execute posted).2)

end Server

namespace Connection

variable [Engine σ] {mild : σ → Prop} {server : Server σ}

/-- What a connection writes that is given all it reads in one piece and then the end of the stream,
and how it ends. -/
def serve (bytes : Bytes) (server : Server σ) : Connection × Progress σ :=
  let received := (accept server).receive bytes server
  let ended := received.1.finish received.2.server
  (ended.1, { ended.2 with written := received.2.written ++ ended.2.written })

/-- Calls over several connections, each written alone to the connection of its number: what comes
back each time, and the server at the end. -/
def serveEach : List (Nat × Posted) → (Nat → Connection) → Server σ → List Bytes × Server σ
  | [], _, server => ([], server)
  | (number, posted) :: rest, connections, server =>
    let (connection, progress) := (connections number).receive posted.frame.form server
    let (others, server) :=
      serveEach rest (Function.update connections number connection) progress.server
    (progress.written :: others, server)

theorem advance_executes (engines : Engine.Mild mild) (holds : server.Holds mild)
    (running : server.stopped = false) (posted : Posted)
    (small : (Frame.reply (server.execute posted).1).Writable) :
    advance .idle (.ok posted.frame) server =
      ⟨(server.execute posted).2, .idle, (Frame.reply (server.execute posted).1).form⟩ := by
  have still := (Server.execute_continues engines holds posted).stopped.trans running
  simp only [advance, Server.step_executes engines holds, write, Frame.encode_of_writable small,
    Server.settle_of_running still]

theorem run_executes (engines : Engine.Mild mild) (holds : server.Holds mild)
    (running : server.stopped = false) {calls : List Posted}
    (small : ∀ reply ∈ (server.executeAll calls).1, (Frame.reply reply).Writable) :
    run .idle server (calls.map fun posted => .ok posted.frame) =
      ⟨(server.executeAll calls).2, .idle,
        (server.executeAll calls).1.flatMap fun reply => (Frame.reply reply).form⟩ := by
  induction calls generalizing server with
  | nil => rfl
  | cons posted rest ih =>
    obtain ⟨first, others⟩ := List.forall_mem_cons.mp small
    have next := ih (holds.execute engines posted)
      ((Server.execute_continues engines holds posted).stopped.trans running) others
    have now := advance_executes engines holds running posted first
    simp only [List.map_cons, run, Phase.isClosed, Bool.false_eq_true, if_false, now, next]
    rfl

omit [Engine σ] in
theorem accept_running (running : server.stopped = false) : accept server = {} := by
  simp only [accept, Server.settle_of_running running]

/-- A connection that is given calls in one piece is as before when it has written the replies. -/
theorem receive_executes (engines : Engine.Mild mild) (holds : server.Holds mild)
    (running : server.stopped = false) {calls : List Posted}
    (sendable : ∀ posted ∈ calls, posted.frame.Writable)
    (small : ∀ reply ∈ (server.executeAll calls).1, (Frame.reply reply).Writable) :
    receive (calls.flatMap fun posted => posted.frame.form) {} server =
      ({}, ⟨(server.executeAll calls).2, .idle,
        (server.executeAll calls).1.flatMap fun reply => (Frame.reply reply).form⟩) := by
  have frames := takeFrames_forms (calls.map Posted.frame) (List.forall_mem_map.mpr sendable)
  rw [List.flatMap_map, List.map_map] at frames
  have ran := run_executes engines holds running small
  have read : (calls.map (Except.ok ∘ Posted.frame) : List Reading) =
    calls.map fun posted => .ok posted.frame := rfl
  simp only [receive, List.nil_append, frames, read, ran]

theorem finish_idle (server : Server σ) :
    finish {} server = ({ phase := .closed (.ok ()) }, ⟨server, .closed (.ok ()), []⟩) := by
  have settled : server.settle (.closed (.ok ())) = .closed (.ok ()) :=
    Server.settle_closed rfl server
  simp [finish, run, Phase.isClosed, advance, Server.step, Server.stepIdle, write, settled]

/-- Calls over several connections come to what they come to in a row. -/
theorem serveEach_executes (engines : Engine.Mild mild) (holds : server.Holds mild)
    (running : server.stopped = false) {calls : List (Nat × Posted)}
    (sendable : ∀ call ∈ calls, call.2.frame.Writable)
    (small : ∀ reply ∈ (server.executeAll (calls.map Prod.snd)).1, (Frame.reply reply).Writable)
    {connections : Nat → Connection} (idle : ∀ number, connections number = {}) :
    serveEach calls connections server =
      ((server.executeAll (calls.map Prod.snd)).1.map fun reply => (Frame.reply reply).form,
        (server.executeAll (calls.map Prod.snd)).2) := by
  induction calls generalizing server connections with
  | nil => rfl
  | cons call rest ih =>
    obtain ⟨number, posted⟩ := call
    obtain ⟨sent, others⟩ := List.forall_mem_cons.mp sendable
    obtain ⟨first, later⟩ := List.forall_mem_cons.mp small
    have alone : receive posted.frame.form {} server = ({}, ⟨(server.execute posted).2, .idle,
        (Frame.reply (server.execute posted).1).form⟩) := by
      have received := receive_executes engines holds running
        (List.forall_mem_singleton.mpr sent) (List.forall_mem_singleton.mpr first)
      simpa only [Server.executeAll, List.flatMap_singleton] using received
    have still : ∀ other, Function.update connections number {} other = {} := by
      intro other
      rw [Function.update_apply]
      split
      · rfl
      · exact idle other
    have next := ih (holds.execute engines posted)
      ((Server.execute_continues engines holds posted).stopped.trans running) others later still
    simp only [serveEach, idle number, alone, next]
    rfl

/-- Calls that are written to a connection in one piece, before the end of the stream, are answered
with one reply each, in their order: what the call comes to on the server as the calls before have
left it. The connection ends well. Neither the replies nor the server at the end are others when
each call is written alone, to whatever connection. -/
theorem pipelined_calls (engines : Engine.Mild mild) (holds : server.Holds mild)
    (running : server.stopped = false) {calls : List Posted}
    (sendable : ∀ posted ∈ calls, posted.frame.Writable)
    (small : ∀ reply ∈ (server.executeAll calls).1, (Frame.reply reply).Writable) :
    let executed := server.executeAll calls
    let served := serve (calls.flatMap fun posted => posted.frame.form) server
    executed.1.length = calls.length ∧
      takeFrames served.2.written = (executed.1.map fun reply => .ok (.reply reply), []) ∧
      (∀ number : Nat, executed.1[number]? = calls[number]?.map fun posted =>
        ((server.executeAll (calls.take number)).2.execute posted).1) ∧
      served.2.server = executed.2 ∧
      served.1.phase = .closed (.ok ()) ∧
      ∀ numbers : List Nat, numbers.length = calls.length →
        let each := serveEach (numbers.zip calls) (fun _ => accept server) server
        each.1.map takeFrames = executed.1.map (fun reply => ([.ok (.reply reply)], [])) ∧
          each.1.flatten = served.2.written ∧ each.2 = served.2.server := by
  intro executed served
  have received := receive_executes engines holds running sendable small
  have serves : served = ({ phase := .closed (.ok ()) }, ⟨executed.2, .closed (.ok ()),
      executed.1.flatMap fun reply => (Frame.reply reply).form⟩) := by
    simp only [served, serve, accept_running running, received, finish_idle, List.append_nil,
      executed]
  refine ⟨server.length_executeAll calls, ?_, fun number => server.executeAll_getElem? calls number,
    by rw [serves], by rw [serves], ?_⟩
  · have frames := takeFrames_forms (executed.1.map Frame.reply) (List.forall_mem_map.mpr small)
    rw [List.flatMap_map, List.map_map] at frames
    rw [serves, frames]
    rfl
  · intro numbers many
    have same : (numbers.zip calls).map Prod.snd = calls := List.map_snd_zip many.ge
    have sent : ∀ call ∈ numbers.zip calls, call.2.frame.Writable := fun call member =>
      sendable call.2 (List.of_mem_zip member).2
    have each := serveEach_executes engines holds running sent (by rwa [same])
      (fun _ => accept_running running)
    rw [same] at each
    simp only [each, serves, List.map_map]
    refine ⟨List.map_congr_left fun reply member => ?_, ?_, rfl⟩
    · have fits := List.forall_mem_singleton.mpr (small reply member)
      simpa using takeFrames_forms [.reply reply] fits
    · exact List.flatMap_def.symm

/-- Calls on a map with one entry, some of them on databases and providers that are not there. -/
theorem pipelined_calls_mixed :
    let server : Server Store := .ofEngine (.map { options := {}, entries := [⟨[7], [5]⟩] })
    let calls : List Posted := [⟨1, .put ⟨1⟩ [8] [6, 6]⟩, ⟨1, .get ⟨1⟩ [8] 9⟩, ⟨1, .length ⟨9⟩ [8]⟩,
      ⟨2, .openName "one"⟩, ⟨1, .erase ⟨1⟩ [7]⟩, ⟨1, .get ⟨1⟩ [7] 9⟩]
    let served := serve (calls.flatMap fun posted => posted.frame.form) server
    let each := serveEach ([3, 0, 3, 5, 0, 0].zip calls) (fun _ => accept server) server
    takeFrames served.2.written = ([.ok (.reply (.ack .ok)), .ok (.reply (.got .ok [6, 6] 2)),
        .ok (.reply (.failure .length .unknownDatabase)),
        .ok (.reply (.failure .openName .unknownProvider)), .ok (.reply (.ack .ok)),
        .ok (.reply (.failure .get .notFound))], []) ∧
      served.1.phase = .closed (.ok ()) ∧ each.1.flatten = served.2.written := by
  intro server calls served each
  have executed : (server.executeAll calls).1 = [.ack .ok, .got .ok [6, 6] 2,
      .failure .length .unknownDatabase, .failure .openName .unknownProvider, .ack .ok,
      .failure .get .notFound] := by decide +kernel
  have holds : server.Holds Store.Dependable := Server.holds_ofEngine trivial
  obtain ⟨-, read, -, -, ended, others⟩ := pipelined_calls Store.mild holds rfl
    (show ∀ posted ∈ calls, posted.frame.Writable by decide) (by rw [executed]; decide)
  rw [executed] at read
  obtain ⟨-, same, -⟩ := others [3, 0, 3, 5, 0, 0] rfl
  exact ⟨read, ended, same⟩

end Connection

end KeyDepot
