import KeyDepot.Proofs.Answering
import KeyDepot.Proofs.Poisoning

/-! Poisoned databases behind a server. A step of a connection runs at most one operation, that of
its call; where this answers an engine failure the database is poisoned, and on a poisoned database
no call is carried out. -/

namespace KeyDepot

variable {σ : Type}

/-- Where a turn leaves the connection, and what it says. -/
def Turn.goes (turn : Turn σ) : Phase × Option Frame := (turn.phase, turn.said)

namespace Registry

variable {registry : Registry σ} {id : DatabaseId}

theorem find?_update (databases : List (Database σ)) (new : Database σ) :
    (databases.map fun db => if db.id == new.id then new else db).find? (fun db =>
        db.id == new.id) = (databases.find? fun db => db.id == new.id).map fun _ => new :=
  find?_replaced (fun db : Database σ => db.id == new.id) (by simp)

theorem find?_update_other (databases : List (Database σ)) {new : Database σ}
    (apart : id ≠ new.id) :
    (databases.map fun db => if db.id == new.id then new else db).find? (fun db => db.id == id) =
      databases.find? fun db => db.id == id := by
  have absent : (new.id == id) = false := beq_false_of_ne (Ne.symm apart)
  refine find?_replace_other (fun db : Database σ => db.id == new.id) absent ?_
  intro db same
  rw [beq_iff_eq.mp same]
  exact absent

theorem kept?_update {old new : Database σ} (found : registry.kept? id = some old)
    (same : new.id = id) : (registry.update new).kept? id = some new := by
  subst same
  simp only [kept?, get?, update, find?_update] at found ⊢
  cases first : registry.databases.find? (fun db => db.id == new.id) with
  | some db => rfl
  | none =>
    rw [first] at found
    have second : registry.removed.find? (fun db => db.id == new.id) = some old := found
    rw [second]
    rfl

theorem kept?_update_other {new : Database σ} (apart : id ≠ new.id) :
    (registry.update new).kept? id = registry.kept? id := by
  simp only [kept?, get?, update, find?_update_other _ apart]

theorem id_of_kept? {db : Database σ} (found : registry.kept? id = some db) : db.id = id := by
  rw [kept?, Option.orElse_eq_orElse, Option.orElse_eq_or, Option.or_eq_some_iff] at found
  rcases found with opened | ⟨-, removed⟩
  · exact id_of_get? opened
  · exact beq_iff_eq.mp (List.find?_some (p := fun db : Database σ => db.id == id) removed)

end Registry

/-- An error that says a database is poisoned is the database's to give: the engine gives none to
the operation of this request. -/
def Engine.GivesNoPoisoned (σ : Type) [Engine σ] (request : Request) : Prop :=
  ∀ answers operation, request.operation? answers = some operation →
    ∀ (store : σ) other, (Engine.perform operation store).1 ≠ .error (.poisoned other)

namespace Database

variable [Engine σ]

/-- What a database fails with because its engine is unusable has poisoned it, unless the engine
itself speaks of a poisoned database. -/
theorem poisoned_of_failure {db : Database σ} {operation : Operation} {error : Error}
    (failed : (db.perform operation).1 = .error error) (unusable : error.isEngineFailure = true)
    (plain : ∀ other, (Engine.perform operation db.store).1 ≠ .error (.poisoned other)) :
    (db.perform operation).2.poisoned = true := by
  cases poisoned : db.poisoned with
  | true => simp [perform, poisoned]
  | false =>
    rw [perform_sound poisoned] at failed ⊢
    cases error with
    | engine reason =>
      change poisons (Engine.perform operation db.store).1 = true
      rw [show (Engine.perform operation db.store).1 = .error (.engine reason) from failed]
      rfl
    | poisoned other => exact absurd failed (plain other)
    | _ => cases unusable

theorem perform_poisoned {db : Database σ} (poisoned : db.poisoned = true)
    (operation : Operation) : db.perform operation = (.error (.poisoned db.id), db) := by
  rw [perform, if_pos poisoned]

end Database

namespace Server

/-- The database with this number of the provider `target`, open or removed. -/
def kept? (target : UInt8) (id : DatabaseId) (server : Server σ) : Option (Database σ) :=
  (server.provider? target).bind fun provider => provider.registry.kept? id

/-- Servers with the same databases. -/
def SameDatabases (server after : Server σ) : Prop :=
  ∀ target id, after.kept? target id = server.kept? target id

def IsPoisoned (target : UInt8) (id : DatabaseId) (server : Server σ) : Prop :=
  ∃ db, server.kept? target id = some db ∧ db.poisoned = true

variable {server : Server σ} {target : UInt8} {id : DatabaseId}

theorem IsPoisoned.of_same {after : Server σ} (poisoned : server.IsPoisoned target id)
    (same : server.SameDatabases after) : after.IsPoisoned target id := by
  obtain ⟨db, held, broken⟩ := poisoned
  exact ⟨db, (same target id).trans held, broken⟩

theorem provider?_update_other {new : Provider σ} {other : UInt8} (apart : other ≠ new.id) :
    (server.update new).provider? other = server.provider? other := by
  refine find?_replace_other (fun provider : Provider σ => provider.id == new.id)
    (beq_false_of_ne (Ne.symm apart)) ?_
  intro provider same
  rw [beq_iff_eq.mp same]
  exact beq_false_of_ne (Ne.symm apart)

theorem update_record {provider : Provider σ} (known : server.provider? target = some provider)
    (rpc : Rpc) : server.SameDatabases (server.update (provider.record rpc)) := by
  intro other id
  have named := Provider.id_of_provider? known
  by_cases same : other = target
  · subst same
    have counted : (server.update (provider.record rpc)).provider? other =
        some (provider.record rpc) := provider?_update known named
    simp only [kept?, counted, known, Option.bind_some]
    rfl
  · have kept : (server.update (provider.record rpc)).provider? other = server.provider? other :=
      provider?_update_other (by rw [show (provider.record rpc).id = target from named]; exact same)
    simp only [kept?, kept]

variable [Engine σ]

theorem perform?_kept {db : Database σ} (found : server.kept? target id = some db)
    (operation : Operation) :
    ∃ after, server.perform? target id operation = some ((db.perform operation).1, after) ∧
      after.kept? target id = some (db.perform operation).2 ∧
      ∀ other number, ¬ (other = target ∧ number = id) →
        after.kept? other number = server.kept? other number := by
  obtain ⟨provider, known, held⟩ := Option.bind_eq_some_iff.mp found
  have named := Registry.id_of_kept? held
  have same := Provider.id_of_provider? known
  let new : Provider σ :=
    { provider with registry := provider.registry.update (db.perform operation).2 }
  have provided : (server.update new).provider? target = some new := provider?_update known same
  have numbered : (db.perform operation).2.id = id := by rw [Database.perform_id, named]
  refine ⟨server.update new, ?_, ?_, fun other number apart => ?_⟩
  · simp [perform?, known, Provider.perform?, Registry.perform?, held, new]
  · simp only [kept?, provided, Option.bind_some]
    exact Registry.kept?_update held numbered
  · by_cases there : other = target
    · subst there
      have elsewhere : number ≠ (db.perform operation).2.id := by
        rw [numbered]
        exact fun same => apart ⟨rfl, same⟩
      simp only [kept?, provided, known, Option.bind_some]
      exact Registry.kept?_update_other elsewhere
    · have kept : (server.update new).provider? other = server.provider? other :=
        provider?_update_other (by rw [show new.id = target from same]; exact there)
      simp only [kept?, kept]

theorem perform?_none (missing : server.kept? target id = none) (operation : Operation) :
    server.perform? target id operation = none := by
  rw [kept?] at missing
  rw [perform?]
  cases known : server.provider? target with
  | none => rfl
  | some provider =>
    rw [known, Option.bind_some] at missing
    simp [Provider.perform?, Registry.perform?, missing]

theorem runFor_cases (target : UInt8) (id : DatabaseId) (rpc : Rpc) (operation : Operation)
    (next : operation.Answer → Phase × Option Frame) (server : Server σ) :
    let turn := server.runFor target id rpc operation next
    (server.kept? target id = none ∧ turn.server = server ∧
      turn.goes = Phase.answer (.failure rpc .unknownDatabase)) ∨
    ∃ db, server.kept? target id = some db ∧
      turn.server.kept? target id = some (db.perform operation).2 ∧
      (∀ other number, ¬ (other = target ∧ number = id) →
        turn.server.kept? other number = server.kept? other number) ∧
      ((∃ error, (db.perform operation).1 = .error error ∧ turn.goes = Phase.fail rpc error) ∨
      ∃ answer, (db.perform operation).1 = .ok answer ∧ turn.goes = next answer) := by
  cases held : server.kept? target id with
  | none =>
    left
    rw [runFor, perform?_none held]
    exact ⟨rfl, rfl, rfl⟩
  | some db =>
    right
    obtain ⟨after, performed, changed, others⟩ := perform?_kept held operation
    cases outcome : (db.perform operation).1 with
    | error error =>
      rw [outcome] at performed
      simp only [runFor, performed]
      exact ⟨db, rfl, changed, others, .inl ⟨error, outcome, rfl⟩⟩
    | ok answer =>
      rw [outcome] at performed
      simp only [runFor, performed]
      exact ⟨db, rfl, changed, others, .inr ⟨answer, outcome, rfl⟩⟩

end Server

namespace Status

/-- The statuses of calls that failed beside the engine. -/
def isFault : Status → Bool
  | unknownProvider | unknownDatabase | bulkFailure | invalidRequest => true
  | _ => false

/-- The statuses of calls that were carried out. -/
def carriedOut : List Status := [ok, notFound, policyViolation, truncated]

theorem not_carriedOut_of_isFault {status : Status} (fault : status.isFault = true) :
    status ∉ carriedOut := by
  cases status <;> simp_all [isFault, carriedOut]

theorem ne_engineFailure_of_isFault {status : Status} (fault : status.isFault = true) :
    status ≠ .engineFailure := by
  rintro rfl
  cases fault

end Status

theorem Error.replyStatus_isFault {error : Error} (sound : error.isEngineFailure = false) :
    error.replyStatus.isFault = true := by
  cases error <;> first | rfl | cases sound

/-- What is answered, or is going to be answered, has such a status. -/
def Tells (allowed : Status → Prop) (goes : Phase × Option Frame) : Prop :=
  (∀ reply, goes.2 = some (.reply reply) → allowed reply.status) ∧
    ∀ rpc region rest reply, goes.1 = .pushing rpc region rest reply → allowed reply.status

namespace Tells

variable {allowed : Status → Prop}

theorem imp {other : Status → Prop} {goes : Phase × Option Frame} (tells : Tells allowed goes)
    (wider : ∀ status, allowed status → other status) : Tells other goes :=
  ⟨fun reply said => wider _ (tells.1 reply said),
    fun rpc region rest reply stands => wider _ (tells.2 rpc region rest reply stands)⟩

theorem silent {goes : Phase × Option Frame} (silent : goes.2 = none)
    (ended : goes.1.isOver = true) : Tells allowed goes := by
  constructor
  · intro reply said
    rw [silent] at said
    cases said
  · intro rpc region rest reply stands
    rw [stands] at ended
    cases ended

theorem answer {reply : Reply} (fits : allowed reply.status) :
    Tells allowed (Phase.answer reply) := by
  constructor
  · rintro _ ⟨⟩
    exact fits
  · rintro _ _ _ _ ⟨⟩

theorem fail (rpc : Rpc) {error : Error} (fits : allowed error.replyStatus) :
    Tells allowed (Phase.fail rpc error) := by
  by_cases breaks : error.breaksConnection = true
  · simp only [Phase.fail, breaks, if_true]
    constructor
    · rintro _ ⟨⟩
    · rintro _ _ _ _ ⟨⟩
  · simp only [Phase.fail, breaks]
    exact answer (by simpa using fits)

theorem proceed (rpc : Rpc) {reply : Reply} (faults : allowed .invalidRequest)
    (fits : allowed reply.status) (transfers : List Transfer) :
    Tells allowed (Phase.proceed rpc reply transfers) := by
  cases transfers with
  | nil => exact answer fits
  | cons transfer rest =>
    cases transfer with
    | refuse cause => exact fail rpc faults
    | stop cause => exact silent rfl rfl
    | push region writes =>
      constructor
      · rintro _ ⟨⟩
      · rintro _ _ _ _ ⟨⟩
        exact fits

end Tells

/-- What a connection that stands here keeps of its call. -/
def Phase.Serves (target : UInt8) (request : Request) : Phase → Prop
  | pulling other id key source =>
    other = target ∧ request = .bulkPut id key source ∧ source.access.readable = true
  | pushing _ _ _ reply => reply.status ≠ .engineFailure
  | _ => True

/-- What follows on an answer of the engine leads to a reply that tells no failure of it. -/
def Turn.Clean {α : Type} (next : α → Phase × Option Frame) : Prop :=
  ∀ answer, ∃ rpc reply transfers, next answer = Phase.proceed rpc reply transfers ∧
    reply.status ≠ .engineFailure

variable [Engine σ]

/-- One step of a call: it runs its operation, or it leaves the databases alone and tells faults and
such statuses as these. -/
inductive Turn.Carries (server : Server σ) (target : UInt8) (request : Request)
    (told : Status → Prop) (turn : Turn σ) : Prop
  | aside (same : server.SameDatabases turn.server) (serves : turn.phase.Serves target request)
      (tells : Tells (fun status => status.isFault = true ∨ told status) turn.goes)
  | runs {counted : Server σ} {id : DatabaseId} {operation : Operation}
      {next : operation.Answer → Phase × Option Frame} (same : server.SameDatabases counted)
      (named : request.database? = some id) (answers : List Frame)
      (asked : request.operation? answers = some operation) (clean : Turn.Clean next)
      (ran : turn = counted.runFor target id request.rpc operation next)

namespace Turn

variable {server : Server σ} {target : UInt8} {request : Request} {told : Status → Prop}
  {turn : Turn σ}

omit [Engine σ] in
theorem serves_fail (rpc : Rpc) (error : Error) :
    (Phase.fail rpc error).1.Serves target request := by
  by_cases breaks : error.breaksConnection = true
  · simp [Phase.fail, breaks, Phase.Serves]
  · simp [Phase.fail, breaks, Phase.answer, Phase.Serves]

omit [Engine σ] in
theorem serves_proceed (rpc : Rpc) {reply : Reply} (sound : reply.status ≠ .engineFailure)
    (transfers : List Transfer) :
    (Phase.proceed rpc reply transfers).1.Serves target request := by
  cases transfers with
  | nil => trivial
  | cons transfer rest =>
    cases transfer with
    | refuse cause => exact serves_fail rpc _
    | stop cause => trivial
    | push region writes => exact sound

theorem Carries.failWith {rpc : Rpc} {error : Error} (sound : error.isEngineFailure = false) :
    (server.failWith rpc error).Carries server target request told :=
  .aside (fun _ _ => rfl) (serves_fail rpc error)
    (Tells.fail rpc (.inl (Error.replyStatus_isFault sound)))

theorem Carries.of_same {counted : Server σ} (same : server.SameDatabases counted)
    (carries : turn.Carries counted target request told) :
    turn.Carries server target request told := by
  cases carries with
  | aside kept serves tells =>
    exact .aside (fun other id => (kept other id).trans (same other id)) serves tells
  | runs kept named answers asked clean ran =>
    exact .runs (fun other id => (kept other id).trans (same other id)) named answers asked clean
      ran

theorem Carries.imp {other : Status → Prop} (carries : turn.Carries server target request told)
    (wider : ∀ status, told status → other status) :
    turn.Carries server target request other := by
  cases carries with
  | aside kept serves tells =>
    exact .aside kept serves (tells.imp fun status fits => fits.imp_right (wider status))
  | runs kept named answers asked clean ran => exact .runs kept named answers asked clean ran

theorem Carries.stays_poisoned (carries : turn.Carries server target request told)
    {provider : UInt8} {id : DatabaseId} (poisoned : server.IsPoisoned provider id) :
    turn.server.IsPoisoned provider id := by
  cases carries with
  | aside same serves tells => exact poisoned.of_same same
  | @runs counted number operation next same named answers asked clean ran =>
    obtain ⟨db, held, broken⟩ := poisoned.of_same same
    subst ran
    rcases counted.runFor_cases target number request.rpc operation next with
      ⟨-, left, -⟩ | ⟨other, found, changed, others, -⟩
    · rw [left]
      exact ⟨db, held, broken⟩
    · by_cases its : provider = target ∧ id = number
      · obtain ⟨rfl, rfl⟩ := its
        obtain rfl := Option.some.inj (held.symm.trans found)
        exact ⟨_, changed, by rw [Database.perform_poisoned broken]; exact broken⟩
      · exact ⟨db, (others provider id its).trans held, broken⟩

theorem Carries.serves (carries : turn.Carries server target request told) :
    turn.phase.Serves target request := by
  cases carries with
  | aside same serves tells => exact serves
  | @runs counted number operation next same named answers asked clean ran =>
    subst ran
    change Phase.Serves target request (goes _).1
    rcases counted.runFor_cases target number request.rpc operation next with
      ⟨-, -, gone⟩ | ⟨db, -, -, -, ⟨error, -, failed⟩ | ⟨answer, -, answered⟩⟩
    · rw [gone]
      trivial
    · rw [failed]
      exact serves_fail request.rpc error
    · obtain ⟨rpc, reply, transfers, proceeds, sound⟩ := clean answer
      rw [answered, proceeds]
      exact serves_proceed rpc sound transfers

/-- A call is answered with an engine failure only when its database is poisoned by then. -/
theorem Carries.failure_poisons (carries : turn.Carries server target request told)
    (untold : ¬ told .engineFailure) (plain : Engine.GivesNoPoisoned σ request) {reply : Reply}
    (said : turn.said = some (.reply reply)) (failed : reply.status = .engineFailure) :
    ∃ id, request.database? = some id ∧ turn.server.IsPoisoned target id := by
  cases carries with
  | aside same serves tells =>
    rcases tells.1 reply said with fault | fits
    · exact absurd failed (Status.ne_engineFailure_of_isFault fault)
    · exact absurd (failed ▸ fits) untold
  | @runs counted id operation next same named answers asked clean ran =>
    refine ⟨id, named, ?_⟩
    subst ran
    have absent : ¬ Tells (· ≠ .engineFailure)
        (counted.runFor target id request.rpc operation next).goes :=
      fun tells => tells.1 reply said failed
    rcases counted.runFor_cases target id request.rpc operation next with
      ⟨-, -, gone⟩ | ⟨db, -, changed, -, ⟨error, broke, fails⟩ | ⟨answer, -, answered⟩⟩
    · rw [gone] at absent
      exact absurd (Tells.answer (by simp)) absent
    · cases unusable : error.isEngineFailure with
      | false =>
        rw [fails] at absent
        have fault := Status.ne_engineFailure_of_isFault (Error.replyStatus_isFault unusable)
        exact absurd (Tells.fail request.rpc fault) absent
      | true =>
        exact ⟨_, changed,
          Database.poisoned_of_failure broke unusable (plain answers operation asked db.store)⟩
    · obtain ⟨rpc, told, transfers, proceeds, sound⟩ := clean answer
      rw [answered, proceeds] at absent
      exact absurd (Tells.proceed rpc (by decide) sound transfers) absent

theorem Carries.refuses (carries : turn.Carries server target request told)
    (untold : ∀ status, told status → status ∉ Status.carriedOut) {id : DatabaseId}
    (named : request.database? = some id) (poisoned : server.IsPoisoned target id) :
    Tells (· ∉ Status.carriedOut) turn.goes := by
  cases carries with
  | aside same serves tells =>
    refine tells.imp fun status fits => ?_
    rcases fits with fault | fits
    · exact Status.not_carriedOut_of_isFault fault
    · exact untold status fits
  | @runs counted number operation next same its answers asked clean ran =>
    obtain rfl := Option.some.inj (its.symm.trans named)
    obtain ⟨db, held, broken⟩ := poisoned.of_same same
    subst ran
    rcases counted.runFor_cases target number request.rpc operation next with
      ⟨none, -⟩ | ⟨other, found, -, -, ended⟩
    · rw [held] at none
      cases none
    · obtain rfl := Option.some.inj (held.symm.trans found)
      rw [Database.perform_poisoned broken] at ended
      rcases ended with ⟨error, failed, fails⟩ | ⟨answer, wrong, -⟩
      · obtain rfl := Except.error.inj failed
        rw [fails]
        have refused : Status.engineFailure ∉ Status.carriedOut := by decide
        exact Tells.fail request.rpc refused
      · cases wrong

end Turn

/-- What the other side can cause a connection to read: a frame or a failure from the front of some
bytes, or a failure of the stream. -/
def Reading.Possible (reading : Reading) : Prop :=
  (∃ received taken, takeFrame? received = some taken ∧ taken.reading = reading) ∨
    ∃ fault, reading = .error (.stream fault)

/-- The failures to read a frame from bytes that have come. -/
inductive Error.Misread : Error → Prop
  | kind (byte : UInt8) : Misread (.protocol (.unknownKind byte))
  | size (size : Nat) : Misread (.protocol (.payloadTooLarge size))
  | payload (kind : FrameKind) (size : Nat) : Misread (.protocol (.payloadNotEmpty kind size))
  | value (fault : WireFault) : Misread (.serialization fault)

theorem readPayload_misread {α : Type} {codec : Wire.Codec α} {make : α → Frame} {payload : Bytes}
    {error : Error} (failed : Frame.readPayload codec make payload = .error error) :
    error.Misread := by
  simp only [Frame.readPayload] at failed
  split at failed
  · cases failed
  · obtain rfl := Except.error.inj failed
    exact .value _

theorem readHeader_misread {header : Bytes} {error : Error}
    (failed : readHeader header = .error error) : error.Misread := by
  simp only [readHeader, FrameKind.ofByte] at failed
  cases found : FrameKind.ofByte? (header.headD 0) with
  | none =>
    rw [found] at failed
    obtain rfl := Except.error.inj failed
    exact .kind _
  | some kind =>
    rw [found] at failed
    simp only at failed
    split at failed
    · obtain rfl := Except.error.inj failed
      exact .size _
    · cases failed

theorem ofPayload_misread {kind : FrameKind} {payload : Bytes} {error : Error}
    (failed : Frame.ofPayload kind payload = .error error) : error.Misread := by
  have empty : ∀ kind frame, (if payload.isEmpty then .ok frame
      else .error (.protocol (.payloadNotEmpty kind payload.length)) : Except Error Frame) =
        .error error → error.Misread := by
    intro kind frame failed
    split at failed
    · cases failed
    · obtain rfl := Except.error.inj failed
      exact .payload kind _
  cases kind with
  | bulkAck => exact empty _ _ failed
  | shutdown => exact empty _ _ failed
  | _ => exact readPayload_misread failed

theorem takeFrame?_misread {received : Bytes} {taken : Taken} {error : Error}
    (found : takeFrame? received = some taken) (failed : taken.reading = .error error) :
    error.Misread := by
  simp only [takeFrame?] at found
  split at found
  · cases found
  · split at found
    · rename_i unread
      obtain rfl := Option.some.inj found
      obtain rfl := Except.error.inj failed
      exact readHeader_misread unread
    · split at found
      · cases found
      · obtain rfl := Option.some.inj found
        exact ofPayload_misread failed

theorem Reading.Possible.sound {error : Error} (possible : Reading.Possible (.error error)) :
    error.isEngineFailure = false := by
  rcases possible with ⟨received, taken, found, failed⟩ | ⟨fault, same⟩
  · cases takeFrame?_misread found failed <;> rfl
  · obtain rfl := Except.error.inj same
    rfl

namespace Server

variable {server : Server σ} {target : UInt8} {request : Request} {told : Status → Prop}

omit [Engine σ] in
theorem clean_answer {α : Type} {reply : α → Reply}
    (sound : ∀ answer, (reply answer).status ≠ .engineFailure) :
    Turn.Clean fun answer => Phase.answer (reply answer) :=
  fun answer => ⟨.put, reply answer, [], rfl, sound answer⟩

omit [Engine σ] in
theorem clean_sendValue (build : Build) (buffer : Descriptor) :
    Turn.Clean (sendValue build buffer) := by
  intro found
  cases found with
  | none => exact ⟨.bulkGet, .failure .bulkGet .notFound, [], rfl, by decide⟩
  | some value =>
    simp only [sendValue]
    split
    · rename_i cause _
      exact ⟨.bulkGet, .bulkGot .ok 0, [.stop cause], rfl, by rintro ⟨⟩⟩
    · split
      · exact ⟨.bulkGet, .bulkGot .truncated (UInt64.ofNat value.length), [], rfl, by rintro ⟨⟩⟩
      · exact ⟨_, _, _, rfl, by rintro ⟨⟩⟩

omit [Engine σ] in
theorem status_ofList (truncated : Bool) (count : Nat) :
    (Reply.ofList truncated count).status ≠ .engineFailure := by
  cases truncated <;> rintro ⟨⟩

/-- A call that is refused when its regions must not be written. -/
theorem checked_carries {id : DatabaseId} (named : request.database? = some id)
    (regions : List Descriptor) (operation : Operation)
    {next : operation.Answer → Phase × Option Frame}
    (asked : Descriptor.unwritable? regions = none → request.operation? [] = some operation)
    (clean : Turn.Clean next) (server : Server σ) :
    Turn.Carries server target request told (match Descriptor.unwritable? regions with
      | some cause => server.failWith request.rpc (.invalidArgument cause)
      | none => server.runFor target id request.rpc operation next) := by
  split
  · exact .failWith rfl
  · rename_i writable
    exact .runs (fun _ _ => rfl) named [] (asked writable) clean rfl

theorem begin_carries {id : DatabaseId} (named : request.database? = some id)
    (server : Server σ) : (server.begin target id request).Carries server target request told := by
  have same : server.SameDatabases server := fun _ _ => rfl
  cases request with
  | openName name => cases named
  | put _ key value =>
    exact .runs same named [] rfl (clean_answer fun stored => by cases stored <;> decide) rfl
  | bulkPut name key source =>
    cases named
    simp only [begin]
    split
    · rename_i readable
      refine .aside same ⟨rfl, rfl, readable⟩ ⟨?_, ?_⟩
      · rintro _ ⟨⟩
      · rintro _ _ _ _ ⟨⟩
    · exact .failWith rfl
  | get _ key maxSize =>
    refine .runs same named [] rfl (clean_answer fun found => ?_) rfl
    cases found with
    | none => rintro ⟨⟩
    | some value =>
      simp only [Reply.ofGet]
      split <;> rintro ⟨⟩
  | bulkGet _ key buffer =>
    exact checked_carries named [buffer] (.get key)
      (fun writable => by simp [Request.operation?, writable]) (clean_sendValue server.build buffer)
      server
  | erase _ key =>
    exact .runs same named [] rfl (clean_answer fun erased => by cases erased <;> decide) rfl
  | length _ key =>
    refine .runs same named [] rfl (clean_answer fun found => ?_) rfl
    cases found <;> rintro ⟨⟩
  | listKeys _ start stem maxKeys keys keySizes =>
    exact checked_carries named [keys, keySizes]
      (.listKeys start (min maxKeys.toNat keys.count) stem)
      (fun writable => by simp [Request.operation?, writable])
      (fun found => ⟨_, _, _, rfl, status_ofList _ _⟩) server
  | listPairs _ start stem maxKeys keys keySizes values valueSizes =>
    exact checked_carries named [keys, keySizes, values, valueSizes]
      (.listPairs start (min (min maxKeys.toNat keys.count) values.count) stem)
      (fun writable => by simp [Request.operation?, writable])
      (fun found => ⟨_, _, _, rfl, status_ofList _ _⟩) server

theorem dispatch_carries (target : UInt8) (request : Request) (server : Server σ) :
    (server.dispatch target request).Carries server target request
      fun _ => request.database? = none := by
  simp only [dispatch]
  split
  · exact .aside (fun _ _ => rfl) trivial (Tells.answer (.inl (by simp [Status.isFault])))
  · rename_i provider known
    have counted := update_record known request.rpc
    have unknown : Turn.Carries server target request (fun _ => request.database? = none)
        ⟨server.update (provider.record request.rpc), .idle,
          some (.reply (.failure request.rpc .unknownDatabase))⟩ :=
      .aside counted trivial (Tells.answer (.inl (by simp [Status.isFault])))
    split
    · split
      · exact .aside counted trivial (Tells.answer (.inr rfl))
      · exact unknown
    · split
      · exact unknown
      · rename_i id named
        exact .of_same counted (begin_carries (Option.filter_eq_some_iff.mp named).1 _)

theorem stepPulling_carries {id : DatabaseId} {key : Bytes} {source : Descriptor}
    (readable : source.access.readable = true) {reading : Reading}
    (possible : Reading.Possible reading) (server : Server σ) :
    (server.stepPulling target id key source reading).Carries server target
      (.bulkPut id key source) told := by
  cases reading with
  | error error => exact .failWith possible.sound
  | ok frame =>
    cases frame with
    | bulkData segments =>
      simp only [stepPulling]
      split
      · rename_i promised
        refine .runs (fun _ _ => rfl) rfl [.bulkData segments] ?_
          (clean_answer fun stored => by cases stored <;> decide) rfl
        simp [Request.operation?, readable, promised]
      · exact .failWith rfl
    | _ =>
      simp only [stepPulling]
      exact .failWith rfl

theorem stepPushing_carries (rpc : Rpc) (region : UInt64) (rest : List Transfer) {reply : Reply}
    (sound : reply.status ≠ .engineFailure) {reading : Reading}
    (possible : Reading.Possible reading) (server : Server σ) :
    (server.stepPushing rpc region rest reply reading).Carries server target request
      (· = reply.status) := by
  cases reading with
  | error error => exact .failWith possible.sound
  | ok frame =>
    cases frame with
    | bulkAck =>
      exact .aside (fun _ _ => rfl) (Turn.serves_proceed rpc sound rest)
        (Tells.proceed rpc (.inl rfl) (.inr rfl) rest)
    | _ =>
      simp only [stepPushing]
      exact .failWith rfl

end Server

end KeyDepot
