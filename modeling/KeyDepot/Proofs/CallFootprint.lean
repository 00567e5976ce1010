import KeyDepot.Proofs.Episodes

/-! What a call touches, and what it looks at. It changes the database it names, and at its provider
the count of its kind; what is said in it depends on that database alone, or on the names of the
provider when it asks for one. -/

namespace KeyDepot

variable {σ : Type}

theorem Tally.count_record (rpc kind : Rpc) (tally : Tally) :
    (tally.record rpc).count kind = tally.count kind + if kind = rpc then 1 else 0 := by
  simp only [record]
  split
  · rfl
  · rw [UInt64.add_zero]

/-- An operation that stores nothing and only tells what is there. -/
def Operation.reads : Operation → Bool
  | .get _ | .contains _ | .listKeys .. | .listPairs .. | .keyRange .. | .pairRange .. => true
  | .put .. | .putMulti .. | .erase _ | .sync => false

/-- Reading leaves an engine as it is. -/
def Engine.ReadsKeep (σ : Type) [Engine σ] : Prop :=
  ∀ operation : Operation, operation.reads = true → ∀ store : σ,
    (Engine.perform operation store).2 = store

theorem DurableStore.reading_keeps {τ α : Type} [ByteMap τ] (read : τ → α)
    (store : DurableStore τ) : (store.reading read).2 = store := by
  obtain ⟨options, shelf, current⟩ := store
  cases current <;> rfl

theorem BrittleStore.guarded_keeps {α : Type} {run : MapStore → Outcome MapStore α}
    (keeps : ∀ map, (run map).2 = map) (key : Bytes) (store : BrittleStore) :
    (store.guarded key run).2 = store := by
  simp only [guarded]
  split
  · rfl
  · simp only [keeps]

namespace Engine.ReadsKeep

theorem map : ReadsKeep MapStore := by
  intro operation reads store
  cases operation <;> first | rfl | cases reads

theorem null : ReadsKeep NullStore := fun _ _ _ => rfl

theorem durable (τ : Type) [ByteMap τ] : ReadsKeep (DurableStore τ) := by
  intro operation reads store
  cases operation <;> first | exact DurableStore.reading_keeps _ store | cases reads

theorem brittle : ReadsKeep BrittleStore := by
  intro operation reads store
  cases operation <;> first | exact BrittleStore.guarded_keeps (map _ reads) _ store | cases reads

theorem store : ReadsKeep Store := by
  intro operation reads store
  cases store with
  | map store => exact congrArg Store.map (map operation reads store)
  | null store => exact congrArg Store.null (null operation reads store)
  | durable store => exact congrArg Store.durable (durable Entries operation reads store)
  | brittle store => exact congrArg Store.brittle (brittle operation reads store)

end Engine.ReadsKeep

namespace Request

/-- A call that stores nothing and only asks what is there. -/
def reads : Request → Bool
  | openName _ | get .. | bulkGet .. | length .. | listKeys .. | listPairs .. => true
  | put .. | bulkPut .. | erase .. => false

/-- What a call leaves under a number: what was there before, or the database it names with another
content and another mark. A call that only asks changes the mark at most. -/
inductive Leaves (request : Request) (id : DatabaseId) :
    Option (Database σ) → Option (Database σ) → Prop
  | same (found : Option (Database σ)) : Leaves request id found found
  | changed (named : request.database? = some id) (db : Database σ) (store : σ) (poisoned : Bool)
      (kept : request.reads = true → store = db.store) :
      Leaves request id (some db) (some { db with store, poisoned })

variable {request : Request} {id : DatabaseId}

theorem Leaves.trans {first second third : Option (Database σ)}
    (one : request.Leaves id first second) (other : request.Leaves id second third) :
    request.Leaves id first third := by
  cases one with
  | same => exact other
  | changed named db store poisoned kept =>
    cases other with
    | same => exact .changed named db store poisoned kept
    | changed _ _ later mark keptLater =>
      exact .changed named db later mark fun reads => (keptLater reads).trans (kept reads)

theorem Leaves.eq_of_unnamed {before after : Option (Database σ)}
    (leaves : request.Leaves id before after) (unnamed : request.database? ≠ some id) :
    after = before := by
  cases leaves with
  | same => rfl
  | changed named => exact absurd named unnamed

theorem Leaves.of_some {before after : Option (Database σ)}
    (leaves : request.Leaves id before after) {db : Database σ} (found : before = some db) :
    ∃ store poisoned, after = some { db with store, poisoned } ∧
      (request.reads = true → store = db.store) := by
  cases leaves with
  | same => exact ⟨db.store, db.poisoned, found, fun _ => rfl⟩
  | changed _ _ store poisoned kept =>
    obtain rfl := Option.some.inj found
    exact ⟨store, poisoned, rfl, kept⟩

theorem reads_operation {answers : List Frame} {operation : Operation}
    (runs : request.operation? answers = some operation) (reads : request.reads = true) :
    operation.reads = true := by
  have checked : ∀ {regions : List Descriptor} {asked : Operation},
      (if (Descriptor.unwritable? regions).isNone then some asked else none) = some operation →
        asked = operation := by
    intro regions asked runs
    split at runs
    · exact Option.some.inj runs
    · cases runs
  cases request with
  | openName => cases runs
  | put | bulkPut | erase => cases reads
  | get | length => rw [← Option.some.inj runs]; rfl
  | bulkGet | listKeys | listPairs => rw [← checked runs]; rfl

end Request

theorem Database.perform_leaves [Engine σ] (keep : Engine.ReadsKeep σ) (operation : Operation)
    (db : Database σ) :
    ∃ store poisoned, (db.perform operation).2 = { db with store, poisoned } ∧
      (operation.reads = true → store = db.store) := by
  simp only [perform]
  split
  · exact ⟨db.store, db.poisoned, rfl, fun _ => rfl⟩
  · exact ⟨_, _, rfl, fun reads => keep operation reads db.store⟩

namespace Registry

variable {registry : Registry σ} {id : DatabaseId}

theorem ids_update (new : Database σ) : (registry.update new).ids = registry.ids := by
  simp only [ids, update, List.map_map]
  apply List.map_congr_left
  intro db _
  simp only [Function.comp_apply]
  split
  · rename_i same
    exact (beq_iff_eq.mp same).symm
  · rfl

theorem get?_update_other {new : Database σ} (apart : id ≠ new.id) :
    (registry.update new).get? id = registry.get? id :=
  find?_update_other registry.databases apart

theorem update_leaves {request : Request} (named : request.database? = some id)
    {db : Database σ} (held : registry.kept? id = some db) {store : σ} (poisoned : Bool)
    (kept : request.reads = true → store = db.store) (other : DatabaseId) :
    request.Leaves other (registry.get? other)
        ((registry.update { db with store, poisoned }).get? other) ∧
      request.Leaves other (registry.kept? other)
        ((registry.update { db with store, poisoned }).kept? other) := by
  have same : db.id = id := id_of_kept? held
  have numbered : ({ db with store, poisoned } : Database σ).id = id := same
  by_cases its : other = id
  · subst its
    rw [kept?_update held numbered, held]
    refine ⟨?_, .changed named db store poisoned kept⟩
    cases opened : registry.get? other with
    | none =>
      -- it has been removed, and is only kept for the calls that still hold it
      have still : (registry.update { db with store, poisoned }).get? other = none := by
        rw [← numbered] at opened ⊢
        have found := find?_update registry.databases { db with store, poisoned }
        rw [show registry.databases.find? (fun known => known.id ==
          ({ db with store, poisoned } : Database σ).id) = none from opened] at found
        exact found
      rw [still]
      exact .same none
    | some known =>
      obtain rfl : known = db := by simpa [kept?, opened] using held
      rw [get?_update opened numbered]
      exact .changed named known store poisoned kept
  · have apart : other ≠ ({ db with store, poisoned } : Database σ).id := by rwa [numbered]
    rw [get?_update_other apart, kept?_update_other apart]
    exact ⟨.same _, .same _⟩

end Registry

/-- What a call leaves of the provider that serves it, once it is counted. -/
structure Provider.Leaves (request : Request) (before after : Provider σ) : Prop where
  id : after.id = before.id
  orders : after.orders = before.orders
  tally : after.tally = before.tally
  next : after.registry.next = before.registry.next
  names : after.registry.names = before.registry.names
  ids : after.registry.ids = before.registry.ids
  opened : ∀ id, request.Leaves id (before.registry.get? id) (after.registry.get? id)
  held : ∀ id, request.Leaves id (before.registry.kept? id) (after.registry.kept? id)

namespace Provider.Leaves

variable {request : Request} {before between after : Provider σ}

theorem refl (provider : Provider σ) : Provider.Leaves request provider provider :=
  ⟨rfl, rfl, rfl, rfl, rfl, rfl, fun _ => .same _, fun _ => .same _⟩

theorem trans (one : Provider.Leaves request before between)
    (other : Provider.Leaves request between after) : Provider.Leaves request before after where
  id := other.id.trans one.id
  orders := other.orders.trans one.orders
  tally := other.tally.trans one.tally
  next := other.next.trans one.next
  names := other.names.trans one.names
  ids := other.ids.trans one.ids
  opened id := (one.opened id).trans (other.opened id)
  held id := (one.held id).trans (other.held id)

end Provider.Leaves

/-- What a call leaves of a server: other providers as they are, and of its own what it may. -/
structure Server.Leaves (target : UInt8) (request : Request) (before after : Server σ) : Prop where
  continues : before.Continues after
  others : ∀ other, other ≠ target → after.provider? other = before.provider? other
  absent : before.provider? target = none → after = before
  present : ∀ provider, before.provider? target = some provider →
    ∃ changed, after.provider? target = some changed ∧ Provider.Leaves request provider changed

namespace Server

variable {target : UInt8} {request : Request} {server : Server σ} {id : DatabaseId}

namespace Leaves

theorem refl (server : Server σ) : Server.Leaves target request server server :=
  ⟨.refl server, fun _ _ => rfl, fun _ => rfl,
    fun provider known => ⟨provider, known, .refl provider⟩⟩

theorem trans {before between after : Server σ} (one : Server.Leaves target request before between)
    (other : Server.Leaves target request between after) :
    Server.Leaves target request before after where
  continues := one.continues.trans other.continues
  others number apart := (other.others number apart).trans (one.others number apart)
  absent none := by
    obtain rfl := one.absent none
    exact other.absent none
  present provider known := by
    obtain ⟨first, found, leaves⟩ := one.present provider known
    obtain ⟨second, still, later⟩ := other.present first found
    exact ⟨second, still, leaves.trans later⟩

theorem update {provider new : Provider σ} (known : server.provider? target = some provider)
    (leaves : Provider.Leaves request provider new) :
    Server.Leaves target request server (server.update new) where
  continues := .update new server
  others number apart := by
    apply provider?_update_other
    rwa [leaves.id, Provider.id_of_provider? known]
  absent none := by
    rw [known] at none
    cases none
  present other found := by
    obtain rfl := Option.some.inj (known.symm.trans found)
    exact ⟨new, provider?_update known (leaves.id.trans (Provider.id_of_provider? known)), leaves⟩

end Leaves

variable [Engine σ]

theorem perform?_leaves (keep : Engine.ReadsKeep σ) (named : request.database? = some id)
    {operation : Operation} (asks : request.reads = true → operation.reads = true)
    {outcome : Except Error operation.Answer} {after : Server σ}
    (performed : server.perform? target id operation = some (outcome, after)) :
    Server.Leaves target request server after := by
  obtain ⟨provider, known, rest⟩ := Option.bind_eq_some_iff.mp performed
  obtain ⟨⟨result, changed⟩, ran, same⟩ := Option.bind_eq_some_iff.mp rest
  obtain ⟨⟨told, registry⟩, stored, made⟩ := Option.map_eq_some_iff.mp ran
  obtain ⟨db, held, operated⟩ := Option.map_eq_some_iff.mp stored
  obtain ⟨store, poisoned, becomes, kept⟩ := db.perform_leaves keep operation
  have changes : provider.registry.update (db.perform operation).2 = registry :=
    congrArg Prod.snd operated
  rw [becomes] at changes
  cases same
  cases made
  subst changes
  have leaves := Registry.update_leaves named held poisoned fun reads => kept (asks reads)
  exact .update known ⟨rfl, rfl, rfl, rfl, rfl, Registry.ids_update _, fun id => (leaves id).1,
    fun id => (leaves id).2⟩

theorem runFor_leaves (keep : Engine.ReadsKeep σ) (named : request.database? = some id)
    {operation : Operation} (asks : request.reads = true → operation.reads = true) (rpc : Rpc)
    (next : operation.Answer → Phase × Option Frame) (server : Server σ) :
    Server.Leaves target request server (server.runFor target id rpc operation next).server := by
  simp only [runFor]
  split
  · exact .refl server
  · rename_i performed
    exact perform?_leaves keep named asks performed
  · rename_i performed
    exact perform?_leaves keep named asks performed

/-- The server with a call counted at its provider. -/
def counting (target : UInt8) (rpc : Rpc) (server : Server σ) : Server σ :=
  match server.provider? target with
  | none => server
  | some provider => server.update (provider.record rpc)

omit [Engine σ] in
theorem counting_of_none (none : server.provider? target = none) (rpc : Rpc) :
    server.counting target rpc = server := by
  rw [counting, none]

omit [Engine σ] in
theorem counting_of_some {provider : Provider σ} (known : server.provider? target = some provider)
    (rpc : Rpc) : server.counting target rpc = server.update (provider.record rpc) := by
  rw [counting, known]

omit [Engine σ] in
theorem counting_continues (target : UInt8) (rpc : Rpc) (server : Server σ) :
    server.Continues (server.counting target rpc) := by
  rw [counting]
  split
  · exact .refl server
  · exact .update ..

omit [Engine σ] in
theorem provider?_counting {provider : Provider σ}
    (known : server.provider? target = some provider) (rpc : Rpc) :
    (server.counting target rpc).provider? target = some (provider.record rpc) := by
  have named := Provider.id_of_provider? known
  rw [counting_of_some known]
  exact provider?_update known (show (provider.record rpc).id = target from named)

omit [Engine σ] in
theorem provider?_counting_other {other : UInt8} (apart : other ≠ target) {rpc : Rpc} :
    (server.counting target rpc).provider? other = server.provider? other := by
  rw [counting]
  split
  · rfl
  · rename_i provider known
    have named := Provider.id_of_provider? known
    apply provider?_update_other
    rwa [show (provider.record rpc).id = target from named]

theorem begin_leaves (keep : Engine.ReadsKeep σ) (named : request.database? = some id)
    (server : Server σ) :
    Server.Leaves target request server (server.begin target id request).server := by
  obtain ⟨operation, next, runs, begins, -⟩ | ⟨cause, -, refused⟩ |
    ⟨name, key, source, -, -, asks⟩ := begin_cases target id named server
  · rw [begins]
    exact runFor_leaves keep named (Request.reads_operation (runs [])) request.rpc next server
  · rw [refused]
    exact .refl server
  · rw [asks]
    exact .refl server

theorem dispatch_leaves (keep : Engine.ReadsKeep σ) (target : UInt8) (request : Request)
    (server : Server σ) :
    Server.Leaves target request (server.counting target request.rpc)
      (server.dispatch target request).server := by
  cases known : server.provider? target with
  | none =>
    simp only [dispatch, counting, known]
    exact .refl server
  | some provider =>
    simp only [dispatch, counting, known]
    split
    · split <;> exact .refl _
    · split
      · exact .refl _
      · rename_i named
        exact begin_leaves keep (Option.filter_eq_some_iff.mp named).1 _

omit [Engine σ] in
theorem serves_of_over {phase : Phase} (settled : phase.isOver = true) :
    phase.Serves target request := by
  cases phase <;> trivial

theorem step_serves {phase : Phase} (underWay : phase.isOver = false)
    (serves : phase.Serves target request) (reading : Reading) (server : Server σ) :
    (server.step phase reading).phase.Serves target request := by
  cases phase with
  | idle | closed | panicked => cases underWay
  | pulling other name key source =>
    exact serves_of_over (pulling_over other name key source reading server)
  | pushing rpc region rest reply =>
    simp only [step, stepPushing]
    split
    · exact Turn.serves_proceed rpc serves rest
    all_goals exact serves_of_over (failWith_over rpc _ server)

theorem step_leaves (keep : Engine.ReadsKeep σ) {phase : Phase} (underWay : phase.isOver = false)
    (serves : phase.Serves target request) (reading : Reading) (server : Server σ) :
    Server.Leaves target request server (server.step phase reading).server := by
  cases phase with
  | idle | closed | panicked => cases underWay
  | pulling other name key source =>
    obtain ⟨rfl, rfl, -⟩ := serves
    simp only [step, stepPulling]
    split
    · split
      · exact runFor_leaves keep rfl (by rintro ⟨⟩) ..
      · exact .refl server
    all_goals exact .refl server
  | pushing rpc region rest reply =>
    simp only [step, stepPushing]
    split <;> exact .refl server

end Server

/-- Servers of one build that hold the same database where the call names one. -/
structure Server.Alike (target : UInt8) (request : Request) (left right : Server σ) : Prop where
  build : left.build = right.build
  databases : ∀ id, request.database? = some id → left.kept? target id = right.kept? target id

/-- Turns of a call that go the same way, and leave the servers alike if the call goes on. -/
structure Turn.Agrees (target : UInt8) (request : Request) (turn other : Turn σ) : Prop where
  goes : turn.goes = other.goes
  alike : turn.phase.isOver = false → Server.Alike target request turn.server other.server

namespace Server

variable {target : UInt8} {request : Request} {left right : Server σ} {id : DatabaseId}

theorem failWith_agree (same : Alike target request left right) (rpc : Rpc) (error : Error) :
    (left.failWith rpc error).Agrees target request (right.failWith rpc error) :=
  ⟨rfl, fun _ => same⟩

variable [Engine σ]

theorem runFor_agree (same : Alike target request left right) (named : request.database? = some id)
    (rpc : Rpc) (operation : Operation) (next : operation.Answer → Phase × Option Frame) :
    (left.runFor target id rpc operation next).Agrees target request
      (right.runFor target id rpc operation next) := by
  have here := same.databases id named
  have built : (left.runFor target id rpc operation next).server.build =
      (right.runFor target id rpc operation next).server.build :=
    (runFor_continues target id rpc operation next left).build.trans
      (same.build.trans (runFor_continues target id rpc operation next right).build.symm)
  -- both servers hold the database or neither does, so the crossed cases do not arise
  rcases left.runFor_cases target id rpc operation next with
    ⟨missing, still, goes⟩ | ⟨db, held, after, -, ends⟩ <;>
  rcases right.runFor_cases target id rpc operation next with
    ⟨absent, stays, went⟩ | ⟨other, found, later, -, ended⟩
  · refine ⟨goes.trans went.symm, fun _ => ?_⟩
    rw [still, stays]
    exact same
  · rw [missing, found] at here
    cases here
  · rw [held, absent] at here
    cases here
  · obtain rfl : db = other := by simpa [held, found] using here
    constructor
    · rcases ends with ⟨error, failed, goes⟩ | ⟨answer, answered, goes⟩ <;>
      rcases ended with ⟨fault, broke, went⟩ | ⟨reply, replied, went⟩
      · obtain rfl : error = fault := by simpa [failed] using broke
        exact goes.trans went.symm
      · simp [failed] at replied
      · simp [answered] at broke
      · obtain rfl : answer = reply := by simpa [answered] using replied
        exact goes.trans went.symm
    · refine fun _ => ⟨built, fun number its => ?_⟩
      obtain rfl := Option.some.inj (named.symm.trans its)
      rw [after, later]

theorem begin_agree (same : Alike target request left right)
    (named : request.database? = some id) :
    (left.begin target id request).Agrees target request (right.begin target id request) := by
  cases request with
  | openName name => cases named
  | bulkPut name key source =>
    simp only [begin]
    split
    · exact ⟨rfl, fun _ => same⟩
    · exact failWith_agree same ..
  | put | get | erase | length =>
    simp only [begin]
    exact runFor_agree same named ..
  | bulkGet | listKeys | listPairs =>
    simp only [begin, same.build]
    split
    · exact failWith_agree same ..
    · exact runFor_agree same named ..

theorem dispatch_opened (named : request.database? = some id) {provider : Provider σ}
    {server : Server σ} (known : server.provider? target = some provider) {db : Database σ}
    (opened : provider.registry.get? id = some db) :
    server.dispatch target request =
      (server.update (provider.record request.rpc)).begin target id request := by
  cases request <;> simp only [Request.database?, reduceCtorEq, Option.some.injEq] at named <;>
    subst named <;> simp [dispatch, known, Request.database?, Option.filter, opened]

theorem dispatch_missing (named : request.database? = some id) {provider : Provider σ}
    {server : Server σ} (known : server.provider? target = some provider)
    (missing : provider.registry.get? id = none) :
    server.dispatch target request = ⟨server.update (provider.record request.rpc), .idle,
      some (.reply (.failure request.rpc .unknownDatabase))⟩ := by
  cases request <;> simp only [Request.database?, reduceCtorEq, Option.some.injEq] at named <;>
    subst named <;> simp [dispatch, known, Request.database?, Option.filter, missing]

omit [Engine σ] in
theorem kept?_counted {server : Server σ} {provider : Provider σ}
    (known : server.provider? target = some provider) {db : Database σ}
    (opened : provider.registry.get? id = some db) {rpc : Rpc} :
    (server.update (provider.record rpc)).kept? target id = some db := by
  rw [update_record known rpc target id]
  simp [kept?, known, Registry.kept?, opened]

theorem dispatch_agree (built : left.build = right.build)
    (names : ∀ name, request = .openName name →
      (left.provider? target).map (fun provider => provider.registry.find? name) =
        (right.provider? target).map fun provider => provider.registry.find? name)
    (databases : ∀ id, request.database? = some id →
      (left.provider? target).map (fun provider => provider.registry.get? id) =
        (right.provider? target).map fun provider => provider.registry.get? id) :
    (left.dispatch target request).Agrees target request (right.dispatch target request) := by
  cases named : request.database? with
  | none =>
    obtain ⟨name, rfl⟩ : ∃ name, request = .openName name := by
      cases request <;> simp_all [Request.database?]
    have same := names name rfl
    have ended : (left.dispatch target (.openName name)).phase.isOver = true := by
      simp only [dispatch]
      split
      · rfl
      · split <;> rfl
    refine ⟨?_, fun goesOn => absurd (goesOn.symm.trans ended) Bool.false_ne_true⟩
    cases known : left.provider? target with
    | none =>
      rw [known] at same
      have unknown := Option.map_eq_none_iff.mp same.symm
      simp only [dispatch, known, unknown, Turn.goes]
    | some provider =>
      rw [known] at same
      obtain ⟨other, there, found⟩ := Option.map_eq_some_iff.mp same.symm
      simp only [dispatch, known, there, found]
      cases provider.registry.find? name <;> rfl
  | some id =>
    have same := databases id named
    cases known : left.provider? target with
    | none =>
      rw [known] at same
      have unknown := Option.map_eq_none_iff.mp same.symm
      simp only [dispatch, known, unknown]
      exact ⟨rfl, fun goesOn => (by cases goesOn)⟩
    | some provider =>
      rw [known] at same
      obtain ⟨other, there, found⟩ := Option.map_eq_some_iff.mp same.symm
      cases opened : provider.registry.get? id with
      | none =>
        rw [dispatch_missing named known opened, dispatch_missing named there (found.trans opened)]
        exact ⟨rfl, fun goesOn => (by cases goesOn)⟩
      | some db =>
        rw [dispatch_opened named known opened, dispatch_opened named there (found.trans opened)]
        refine begin_agree ⟨built, ?_⟩ named
        intro number its
        obtain rfl := Option.some.inj (named.symm.trans its)
        rw [kept?_counted known opened, kept?_counted there (found.trans opened)]

theorem step_agree {phase : Phase} (underWay : phase.isOver = false)
    (serves : phase.Serves target request) (same : Alike target request left right)
    (reading : Reading) :
    (left.step phase reading).Agrees target request (right.step phase reading) := by
  cases phase with
  | idle | closed | panicked => cases underWay
  | pulling other name key source =>
    obtain ⟨rfl, rfl, -⟩ := serves
    simp only [step, stepPulling]
    split
    · split
      · exact runFor_agree same rfl ..
      · exact failWith_agree same ..
    all_goals exact failWith_agree same ..
  | pushing rpc region rest reply =>
    simp only [step, stepPushing]
    split
    · exact ⟨rfl, fun _ => same⟩
    all_goals exact failWith_agree same ..

end Server

namespace Connection

variable [Engine σ] {target : UInt8} {request : Request}

theorem episode_leaves (keep : Engine.ReadsKeep σ) (target : UInt8) (request : Request)
    (server : Server σ) (readings : List Reading) :
    Server.Leaves target request (server.counting target request.rpc)
      (episode .idle server (.ok (.request target request) :: readings)).server := by
  let counted := server.counting target request.rpc
  let holds (phase : Phase) (after : Server σ) : Prop :=
    phase.Serves target request ∧ Server.Leaves target request counted after
  have first : (server.step .idle (.ok (.request target request))).Upholds holds fun _ => True :=
    ⟨⟨(server.dispatch_carries target request).serves, server.dispatch_leaves keep target request⟩,
      fun _ _ => trivial⟩
  have steps : ∀ {phase : Phase} {after : Server σ} reading, phase.isOver = false →
      holds phase after → (after.step phase reading).Upholds holds fun _ => True := by
    rintro phase after reading underWay ⟨serves, leaves⟩
    have next := Server.step_leaves keep underWay serves reading after
    exact ⟨⟨Server.step_serves underWay serves reading after, leaves.trans next⟩,
      fun _ _ => trivial⟩
  obtain ⟨phase, -, leaves⟩ := (upholds_cons first fun underWay =>
    upholds_of_steps steps underWay first.holds readings).holds
  exact leaves

theorem episode_same {left right : Server σ}
    (agree : (left.dispatch target request).Agrees target request (right.dispatch target request))
    (readings : List Reading) :
    (episode .idle left (.ok (.request target request) :: readings)).Agrees
      (episode .idle right (.ok (.request target request) :: readings)) := by
  let alike (phase : Phase) (left right : Server σ) : Prop :=
    phase.Serves target request ∧ Server.Alike target request left right
  have first : (left.step .idle (.ok (.request target request))).goes =
      (right.step .idle (.ok (.request target request))).goes := agree.goes
  have steps : ∀ {phase : Phase} {left right : Server σ} reading, phase.isOver = false →
      alike phase left right → (left.step phase reading).goes = (right.step phase reading).goes ∧
        ((left.step phase reading).phase.isOver = false →
          alike (left.step phase reading).phase (left.step phase reading).server
            (right.step phase reading).server) := by
    rintro phase left right reading underWay ⟨serves, same⟩
    have next := Server.step_agree underWay serves same reading
    exact ⟨next.goes, fun goesOn =>
      ⟨Server.step_serves underWay serves reading left, next.alike goesOn⟩⟩
  have serves := (left.dispatch_carries target request).serves
  exact agree_cons first fun underWay =>
    agree_of_steps steps underWay ⟨serves, agree.alike underWay⟩ readings

/-- A call touches only what it addresses, whatever the engines, as long as reading leaves them as
they are: other providers stay as they are, at its own it is counted, and of the databases there at
most the one it names changes, whose content stays when the call only reads. What the caller gets to
see depends on that database alone, or on the number of the name it asks for. -/
theorem touches_only_addressed :
    (Engine.ReadsKeep MapStore ∧ Engine.ReadsKeep NullStore ∧ Engine.ReadsKeep BrittleStore ∧
      (∀ (τ : Type) [ByteMap τ], Engine.ReadsKeep (DurableStore τ)) ∧ Engine.ReadsKeep Store) ∧
    ∀ (σ : Type) [Engine σ], Engine.ReadsKeep σ →
      ∀ (target : UInt8) (request : Request) (server : Server σ) (readings : List Reading),
      let call := episode .idle server (.ok (.request target request) :: readings)
      server.Continues call.server ∧
        (∀ other, other ≠ target → call.server.provider? other = server.provider? other) ∧
        (server.provider? target = none → call.server = server) ∧
        (∀ provider, server.provider? target = some provider → ∃ after,
          call.server.provider? target = some after ∧ after.orders = provider.orders ∧
            after.registry.next = provider.registry.next ∧
            after.registry.names = provider.registry.names ∧
            after.registry.ids = provider.registry.ids ∧
            (∀ rpc, after.tally.count rpc =
              provider.tally.count rpc + if rpc = request.rpc then 1 else 0) ∧
            (∀ id, request.database? ≠ some id →
              after.registry.get? id = provider.registry.get? id ∧
                after.registry.kept? id = provider.registry.kept? id) ∧
            ∀ id db, provider.registry.get? id = some db → ∃ store poisoned,
              after.registry.get? id = some { db with store, poisoned } ∧
                (request.reads = true → store = db.store)) ∧
        ∀ other : Server σ, server.build = other.build →
          (∀ name, request = .openName name →
            (server.provider? target).map (fun provider => provider.registry.find? name) =
              (other.provider? target).map fun provider => provider.registry.find? name) →
          (∀ id, request.database? = some id →
            (server.provider? target).map (fun provider => provider.registry.get? id) =
              (other.provider? target).map fun provider => provider.registry.get? id) →
          call.Agrees (episode .idle other (.ok (.request target request) :: readings)) := by
  refine ⟨⟨.map, .null, .brittle, .durable, .store⟩, ?_⟩
  intro σ _ keep target request server readings call
  have leaves : Server.Leaves target request (server.counting target request.rpc) call.server :=
    episode_leaves keep target request server readings
  refine ⟨(Server.counting_continues ..).trans leaves.continues, ?_, ?_, ?_,
    fun other built names databases =>
      episode_same (Server.dispatch_agree built names databases) readings⟩
  · intro other apart
    exact (leaves.others other apart).trans (Server.provider?_counting_other apart)
  · intro none
    have same := Server.counting_of_none none request.rpc
    rw [same] at leaves
    exact leaves.absent none
  · intro provider known
    obtain ⟨after, found, left⟩ := leaves.present _ (Server.provider?_counting known request.rpc)
    refine ⟨after, found, left.orders, left.next, left.names, left.ids, ?_, ?_, ?_⟩
    · intro rpc
      rw [left.tally]
      exact provider.tally.count_record request.rpc rpc
    · intro id unnamed
      exact ⟨(left.opened id).eq_of_unnamed unnamed, (left.held id).eq_of_unnamed unnamed⟩
    · intro id db opened
      exact (left.opened id).of_some opened

/-- A call on a database that is not there is counted, and answered alike by two servers whose other
databases differ. -/
theorem touches_only_addressed_missing :
    let request : Request := .get ⟨2⟩ [7] 9
    let server := Server.ofEngine (Store.null {})
    let other := Server.ofEngine (Store.map { options := {}, entries := [⟨[7], [5]⟩] })
    let call := episode .idle server [.ok (.request 1 request)]
    call.said = [.reply (.failure .get .unknownDatabase)] ∧
      call.Agrees (episode .idle other [.ok (.request 1 request)]) ∧
      ∃ after, call.server.provider? 1 = some after ∧ after.tally.count .get = 1 ∧
        after.tally.count .put = 0 ∧ after.registry.get? ⟨1⟩ = some (.ofEngine (.null {})) := by
  intro request server other call
  obtain ⟨-, general⟩ := touches_only_addressed
  obtain ⟨-, -, -, present, same⟩ := general Store .store 1 request server []
  obtain ⟨after, found, -, -, -, -, counts, others, -⟩ := present _ rfl
  obtain ⟨still, -⟩ := others ⟨1⟩ (by decide)
  have unasked : ∀ name, request ≠ .openName name := nofun
  refine ⟨by rfl, same other rfl (fun name asked => absurd asked (unasked name)) ?_, after, found,
    counts .get, counts .put, still⟩
  rintro id ⟨⟩
  rfl

end Connection

end KeyDepot
