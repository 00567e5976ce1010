import KeyDepot.Proofs.Replacement
import KeyDepot.Service.Connection

namespace KeyDepot

variable {σ : Type}

theorem Registry.id_of_get? {registry : Registry σ} {id : DatabaseId} {db : Database σ}
    (found : registry.get? id = some db) : db.id = id :=
  beq_iff_eq.mp (List.find?_some (p := fun db : Database σ => db.id == id) found)

theorem Provider.id_of_provider? {server : Server σ} {target : UInt8} {provider : Provider σ}
    (found : server.provider? target = some provider) : provider.id = target :=
  beq_iff_eq.mp (List.find?_some (p := fun other : Provider σ => other.id == target) found)

theorem Registry.get?_update {registry : Registry σ} {id : DatabaseId} {old new : Database σ}
    (found : registry.get? id = some old) (kept : new.id = id) :
    (registry.update new).get? id = some new := by
  subst kept
  exact find?_replace (fun db : Database σ => db.id == new.id) found (by simp)

namespace Database

/-- A database that has just been made of this engine. -/
def ofEngine (engine : σ) : Database σ :=
  { id := ⟨1⟩, config := { name := "one" }, store := engine }

variable [Engine σ]

@[simp] theorem perform_id (operation : Operation) (db : Database σ) :
    (db.perform operation).2.id = db.id := by
  simp only [perform]
  split <;> rfl

end Database

namespace Server

theorem provider?_update {server : Server σ} {target : UInt8} {old new : Provider σ}
    (found : server.provider? target = some old) (kept : new.id = target) :
    (server.update new).provider? target = some new := by
  subst kept
  exact find?_replace (fun other : Provider σ => other.id == new.id) found (by simp)

/-- The open database with this number of the provider `target`. -/
def database? (target : UInt8) (id : DatabaseId) (server : Server σ) : Option (Database σ) :=
  (server.provider? target).bind fun provider => provider.registry.get? id

theorem database?_eq_some {server : Server σ} {target : UInt8} {id : DatabaseId}
    {db : Database σ} (found : server.database? target id = some db) :
    ∃ provider, server.provider? target = some provider ∧
      provider.registry.get? id = some db :=
  Option.bind_eq_some_iff.mp found

/-- A server with one database on this engine, number 1 of provider 1. -/
def ofEngine (engine : σ) : Server σ :=
  { providers := [{ id := 1, registry := { databases := [.ofEngine engine] } }] }

theorem database?_ofEngine (engine : σ) :
    (ofEngine engine).database? 1 ⟨1⟩ = some (.ofEngine engine) := rfl

theorem settle_of_running {server : Server σ} (running : server.stopped = false) (phase : Phase) :
    server.settle phase = phase := by
  simp [settle, running]

/-- Two servers that a running call cannot tell from each other but by their databases. -/
structure Continues (server after : Server σ) : Prop where
  stopped : after.stopped = server.stopped
  settings : after.settings = server.settings
  build : after.build = server.build

theorem Continues.refl (server : Server σ) : server.Continues server := ⟨rfl, rfl, rfl⟩

theorem Continues.trans {first second third : Server σ} (one : first.Continues second)
    (other : second.Continues third) : first.Continues third :=
  ⟨other.stopped.trans one.stopped, other.settings.trans one.settings,
    other.build.trans one.build⟩

theorem Continues.update (provider : Provider σ) (server : Server σ) :
    server.Continues (server.update provider) := ⟨rfl, rfl, rfl⟩

variable [Engine σ]

theorem perform?_continues {server after : Server σ} {target : UInt8} {id : DatabaseId}
    {operation : Operation} {outcome : Except Error operation.Answer}
    (performed : server.perform? target id operation = some (outcome, after)) :
    server.Continues after := by
  obtain ⟨provider, -, rest⟩ := Option.bind_eq_some_iff.mp performed
  obtain ⟨⟨result, changed⟩, -, same⟩ := Option.bind_eq_some_iff.mp rest
  cases same
  exact .update changed server

/-- An operation on an open database is the operation of that database, and the server holds the
database as it is after it. -/
theorem perform?_database {server : Server σ} {target : UInt8} {id : DatabaseId}
    {db : Database σ} (found : server.database? target id = some db) (operation : Operation) :
    ∃ after, server.perform? target id operation = some ((db.perform operation).1, after) ∧
      after.database? target id = some (db.perform operation).2 ∧ server.Continues after := by
  obtain ⟨provider, known, opened⟩ := database?_eq_some found
  have named := Registry.id_of_get? opened
  have same := Provider.id_of_provider? known
  have kept : provider.registry.kept? id = some db := by simp [Registry.kept?, opened]
  refine ⟨server.update
    { provider with registry := provider.registry.update (db.perform operation).2 }, ?_, ?_, ?_⟩
  · simp [perform?, known, Provider.perform?, Registry.perform?, kept]
  · have provided := provider?_update known
      (show ({ provider with registry := provider.registry.update (db.perform operation).2 } :
        Provider σ).id = target from same)
    simp only [database?, provided, Option.bind_some]
    exact Registry.get?_update opened (by simp [named])
  · exact .update ..

theorem runFor_continues (target : UInt8) (id : DatabaseId) (rpc : Rpc) (operation : Operation)
    (next : operation.Answer → Phase × Option Frame) (server : Server σ) :
    server.Continues (server.runFor target id rpc operation next).server := by
  simp only [runFor]
  split
  · exact .refl server
  · rename_i performed
    exact perform?_continues performed
  · rename_i performed
    exact perform?_continues performed

/-- The turn in which an operation of a call on an open database is run. -/
theorem runFor_database {server : Server σ} {target : UInt8} {id : DatabaseId} {db : Database σ}
    (found : server.database? target id = some db) (rpc : Rpc) (operation : Operation)
    (next : operation.Answer → Phase × Option Frame) :
    ∃ after, server.runFor target id rpc operation next =
        (match (db.perform operation).1 with
        | .ok answer => ⟨after, (next answer).1, (next answer).2⟩
        | .error error => ⟨after, (Phase.fail rpc error).1, (Phase.fail rpc error).2⟩) ∧
      after.database? target id = some (db.perform operation).2 ∧ server.Continues after := by
  obtain ⟨after, performed, held, continues⟩ := perform?_database found operation
  refine ⟨after, ?_, held, continues⟩
  simp only [runFor, performed]
  cases (db.perform operation).1 <;> rfl

theorem begin_continues (target : UInt8) (id : DatabaseId) (request : Request)
    (server : Server σ) : server.Continues (server.begin target id request).server := by
  cases request <;> simp only [begin, failWith] <;>
    repeat' split
  all_goals first | exact .refl server | exact runFor_continues ..

theorem dispatch_continues (target : UInt8) (request : Request) (server : Server σ) :
    server.Continues (server.dispatch target request).server := by
  simp only [dispatch]
  split
  · exact .refl server
  · rename_i provider _
    have counted := Continues.update (provider.record request.rpc) server
    repeat' split
    all_goals first
      | exact counted
      | exact counted.trans (begin_continues ..)

theorem step_continues {frame : Frame} (goesOn : frame ≠ .shutdown) (phase : Phase)
    (server : Server σ) : server.Continues (server.step phase (.ok frame)).server := by
  cases phase with
  | idle =>
    simp only [step, stepIdle]
    split
    · rename_i same
      cases same
      exact dispatch_continues ..
    · rename_i same
      cases same
      exact absurd rfl goesOn
    all_goals exact .refl server
  | pulling target id key source =>
    simp only [step, stepPulling, failWith]
    repeat' split
    all_goals first | exact .refl server | exact runFor_continues ..
  | pushing rpc region rest reply =>
    simp only [step, stepPushing, failWith]
    split <;> exact .refl server
  | closed ending => exact .refl server
  | panicked cause => exact .refl server

/-- A request for an open database is begun on a server that has counted it. -/
theorem step_request {server : Server σ} {target : UInt8} {id : DatabaseId} {db : Database σ}
    (found : server.database? target id = some db) {request : Request}
    (named : request.database? = some id) :
    ∃ counted, server.step .idle (.ok (.request target request)) =
        counted.begin target id request ∧
      counted.database? target id = some db ∧ server.Continues counted := by
  obtain ⟨provider, known, opened⟩ := database?_eq_some found
  refine ⟨server.update (provider.record request.rpc), ?_, ?_, .update ..⟩
  · cases request <;> simp only [Request.database?, reduceCtorEq, Option.some.injEq] at named <;>
      subst named <;>
      simp [step, stepIdle, dispatch, known, Request.database?, Option.filter, opened]
  · have same := Provider.id_of_provider? known
    have provided := provider?_update known
      (show (provider.record request.rpc).id = target from same)
    simp only [database?, provided, Option.bind_some]
    exact opened

end Server

end KeyDepot
