import KeyDepot.Proofs.CallCourse
import KeyDepot.Proofs.Capacities
import KeyDepot.Proofs.FrameReading
import KeyDepot.Proofs.SlotLayout
import KeyDepot.Storage.Store

/-! Which calls are answered. A call on any engine is answered with one reply, and the connection
goes on, unless the engine fails in a way that is taken for a failure of the stream, sizes that have
no sum are summed up in a debug build, or a frame turns out too large to be written; then the
connection is given up without a reply. -/

namespace KeyDepot

/-- The operation a call runs on its database, when the client gives these answers. -/
def Request.operation? (answers : List Frame) : Request → Option Operation
  | .openName _ => none
  | .put _ key value => some (.put key value)
  | .bulkPut _ key source =>
    match answers with
    | .bulkData segments :: _ =>
      if source.access.readable ∧ segments.map List.length = source.sizes.map UInt64.toNat then
        some (.put key segments.flatten)
      else none
    | _ => none
  | .get _ key _ | .length _ key => some (.get key)
  | .bulkGet _ key buffer =>
    if (Descriptor.unwritable? [buffer]).isNone then some (.get key) else none
  | .erase _ key => some (.erase key)
  | .listKeys _ start stem maxKeys keys keySizes =>
    if (Descriptor.unwritable? [keys, keySizes]).isNone then
      some (.listKeys start (min maxKeys.toNat keys.count) stem)
    else none
  | .listPairs _ start stem maxKeys keys keySizes values valueSizes =>
    if (Descriptor.unwritable? [keys, keySizes, values, valueSizes]).isNone then
      some (.listPairs start (min (min maxKeys.toNat keys.count) values.count) stem)
    else none

/-- Sizes that have no sum are summed up in a call, when its operation is answered so and the client
gives these answers. Nothing is summed up for what was not found, and the sizes of the region for
the lengths of values only after the lengths of the keys have been taken. -/
def Request.Exceeds (request : Request) (answers : List Frame) :
    (operation : Operation) → operation.Answer → Prop
  | .get _, found =>
    match request with
    | .bulkGet _ _ buffer => found ≠ none ∧ buffer.Exceeds
    | _ => False
  | .listKeys .., found =>
    match request with
    | .listKeys _ _ _ _ _ keySizes => found ≠ [] ∧ keySizes.Exceeds
    | _ => False
  | .listPairs .., found =>
    match request with
    | .listPairs _ _ _ _ _ keySizes _ valueSizes =>
      found ≠ [] ∧ (keySizes.Exceeds ∨ found.length * Bulk.lengthWidth ≤ keySizes.capacity ∧
        answers.head? = some .bulkAck ∧ valueSizes.Exceeds)
    | _ => False
  | _, _ => False

variable {σ : Type} [Engine σ]

/-- The engine fails the call with an error that is taken for a failure of the connection. -/
def Server.Breaks (target : UInt8) (request : Request) (answers : List Frame)
    (server : Server σ) : Prop :=
  ∃ id db operation error, request.database? = some id ∧ server.database? target id = some db ∧
    request.operation? answers = some operation ∧ (db.perform operation).1 = .error error ∧
    error.breaksConnection = true

/-- The server is a debug build and comes to sum up sizes that have no sum. -/
def Server.Overflows (target : UInt8) (request : Request) (answers : List Frame)
    (server : Server σ) : Prop :=
  ∃ id db operation answer, request.database? = some id ∧ server.database? target id = some db ∧
    request.operation? answers = some operation ∧ (db.perform operation).1 = .ok answer ∧
    server.build = .debug ∧ request.Exceeds answers operation answer

namespace Transfer

theorem length_lengths (build : Build) (region : Descriptor) (items : List Bytes) :
    (lengths build region items).length ≤ 1 := by
  simp only [lengths]
  repeat' split
  all_goals simp

theorem length_slots (region : Descriptor) (items : List Bytes) :
    (slots region items).length ≤ 1 := by
  simp only [slots]
  split <;> simp

theorem panics_push (region : UInt64) (writes : List SegmentWrite) (rest : List Transfer)
    (answers : List Frame) :
    Panics (.push region writes :: rest) answers ↔
      ∃ later, answers = .bulkAck :: later ∧ Panics rest later := by
  constructor
  · intro panics
    cases answers with
    | nil => exact panics.elim
    | cons answer later =>
      cases answer
      case bulkAck => exact ⟨later, rfl, panics⟩
      all_goals exact panics.elim
  · rintro ⟨later, rfl, panics⟩
    exact panics

/-- Packing lengths panics only over sizes that have no sum, in a debug build. What stands behind is
come to when the lengths have room and are taken. -/
theorem panics_lengths (build : Build) (region : Descriptor) {items : List Bytes}
    (present : items ≠ []) (rest : List Transfer) (answers : List Frame) :
    Panics (lengths build region items ++ rest) answers ↔
      (build = .debug ∧ region.Exceeds) ∨
        ∃ total, region.total build = .ok total ∧
          items.length * Bulk.lengthWidth ≤ total.toNat ∧
          ∃ later, answers = .bulkAck :: later ∧ Panics rest later := by
  have filled : (Bulk.packLengths items).isEmpty = false := by
    rw [List.isEmpty_eq_false_iff_exists_mem, ← List.length_pos_iff_exists_mem,
      Bulk.length_packLengths]
    exact Nat.mul_pos (List.length_pos_iff.mpr present) (by decide)
  simp only [lengths, filled, Bool.false_eq_true, if_false, Bulk.length_packLengths]
  cases summed : region.total build with
  | error cause =>
    obtain ⟨exceeds, -⟩ := Descriptor.total_eq_error_iff.mp summed
    exact iff_of_true trivial (.inl exceeds)
  | ok total =>
    have sound := Descriptor.not_exceeds summed
    dsimp only
    split
    · rename_i short
      refine iff_of_false id ?_
      rintro (exceeds | ⟨_, ⟨⟩, enough, -⟩)
      · exact sound exceeds
      · exact absurd enough (Nat.not_le.mpr short)
    · rename_i enough
      rw [List.singleton_append, panics_push, or_iff_right sound]
      simp [Nat.not_lt.mp enough]

theorem not_panics_slots (first second : Descriptor) (items others : List Bytes)
    (answers : List Frame) : ¬ Panics (slots first items ++ slots second others) answers := by
  have one : ∀ answers, ¬ Panics (slots second others) answers := by
    intro answers
    simp only [slots]
    split
    · exact id
    · rw [panics_push]
      rintro ⟨later, -, panics⟩
      exact panics
  simp only [slots] at one ⊢
  split
  · exact one answers
  · rw [List.singleton_append, panics_push]
    rintro ⟨later, -, panics⟩
    exact one later panics

end Transfer

namespace Server

omit [Engine σ] in
theorem sendValue_proceeds (build : Build) (buffer : Descriptor) :
    Turn.Proceeds 4 (fun _ found => build = .debug ∧ found ≠ none ∧ buffer.Exceeds)
      (sendValue build buffer) := by
  intro found
  cases found with
  | none => exact ⟨.bulkGet, _, [], rfl, Nat.zero_le _, fun _ => by simp [Transfer.Panics]⟩
  | some value =>
    simp only [sendValue]
    cases summed : buffer.total build with
    | error cause =>
      obtain ⟨⟨debug, exceeds⟩, -⟩ := Descriptor.total_eq_error_iff.mp summed
      exact ⟨.bulkGet, .bulkGot .ok 0, [.stop cause], rfl, by simp,
        fun _ => iff_of_true trivial ⟨debug, Option.some_ne_none value, exceeds⟩⟩
    | ok total =>
      have sound : ¬ (build = .debug ∧ some value ≠ none ∧ buffer.Exceeds) := by
        rintro ⟨debug, -, exceeds⟩
        exact Descriptor.not_exceeds summed ⟨debug, exceeds⟩
      dsimp only
      split
      · exact ⟨.bulkGet, _, [], rfl, Nat.zero_le _, fun _ => iff_of_false id sound⟩
      · refine ⟨_, _, _, rfl, by simp, fun answers => iff_of_false ?_ sound⟩
        rw [Transfer.panics_push]
        rintro ⟨later, -, panics⟩
        exact panics

omit [Engine σ] in
theorem sendKeys_proceeds (build : Build) (keys keySizes : Descriptor) :
    Turn.Proceeds 4 (fun _ found => build = .debug ∧ found ≠ [] ∧ keySizes.Exceeds)
      (sendKeys build keys keySizes) := by
  intro found
  refine ⟨_, _, _, rfl, ?_, fun answers => ?_⟩
  · have sizes := Transfer.length_lengths build keySizes found
    have items := Transfer.length_slots keys found
    rw [List.length_append]
    split <;> simp <;> omega
  · have pushes : ∀ answers, ¬ Transfer.Panics (if Bulk.exceedsSlots found keys.sizes = true then []
        else Transfer.slots keys found) answers := by
      intro answers
      split
      · exact id
      · simpa [Transfer.slots] using Transfer.not_panics_slots keys keys found [] answers
    by_cases empty : found = []
    · subst empty
      simpa [Transfer.lengths, Bulk.packLengths] using pushes answers
    · rw [Transfer.panics_lengths build keySizes empty]
      simp [pushes, empty]

omit [Engine σ] in
theorem sendPairs_proceeds (build : Build) (keys keySizes values valueSizes : Descriptor) :
    Turn.Proceeds 4 (fun answers found => build = .debug ∧ found ≠ [] ∧ (keySizes.Exceeds ∨
        found.length * Bulk.lengthWidth ≤ keySizes.capacity ∧ answers.head? = some .bulkAck ∧
          valueSizes.Exceeds))
      (sendPairs build keys keySizes values valueSizes) := by
  intro found
  refine ⟨_, _, _, rfl, ?_, fun answers => ?_⟩
  · have sizes := Transfer.length_lengths build keySizes (found.map Entry.key)
    have others := Transfer.length_lengths build valueSizes (found.map Entry.value)
    have items := Transfer.length_slots keys (found.map Entry.key)
    have contents := Transfer.length_slots values (found.map Entry.value)
    simp only [List.length_append]
    split <;> simp <;> omega
  · have pushes : ∀ answers, ¬ Transfer.Panics (if
          (Bulk.exceedsSlots (found.map Entry.key) keys.sizes ||
            Bulk.exceedsSlots (found.map Entry.value) values.sizes) = true then []
        else Transfer.slots keys (found.map Entry.key) ++
          Transfer.slots values (found.map Entry.value)) answers := by
      intro answers
      split
      · exact id
      · exact Transfer.not_panics_slots _ _ _ _ _
    by_cases empty : found = []
    · subst empty
      simpa [Transfer.lengths, Bulk.packLengths] using pushes answers
    · rw [List.append_assoc, Transfer.panics_lengths build keySizes (by simpa using empty)]
      simp only [Transfer.panics_lengths build valueSizes
        (show found.map Entry.value ≠ [] by simpa using empty), pushes, and_false, exists_false,
        or_false, List.length_map, List.head?_eq_some_iff]
      constructor
      · rintro (⟨debug, exceeds⟩ | ⟨total, summed, room, later, taken, debug, exceeds⟩)
        · exact ⟨debug, empty, .inl exceeds⟩
        · subst debug
          exact ⟨rfl, empty, .inr ⟨Descriptor.total_debug summed ▸ room, ⟨later, taken⟩, exceeds⟩⟩
      · rintro ⟨rfl, -, exceeds | ⟨room, ⟨later, taken⟩, exceeds⟩⟩
        · exact .inl ⟨rfl, exceeds⟩
        · cases summed : keySizes.total .debug with
          | error cause => exact .inl (Descriptor.total_eq_error_iff.mp summed).1
          | ok total =>
            exact .inr ⟨total, rfl, Descriptor.total_debug summed ▸ room, later, taken, rfl,
              exceeds⟩

/-- How a call on an open database begins: it runs an operation and goes on with its answer, or it
is refused, or it asks for the value to put. -/
theorem begin_cases (target : UInt8) (id : DatabaseId) {request : Request}
    (named : request.database? = some id) (server : Server σ) :
    (∃ operation next, (∀ answers, request.operation? answers = some operation) ∧
      server.begin target id request = server.runFor target id request.rpc operation next ∧
      Turn.Proceeds 4 (fun answers answer => server.build = .debug ∧
        request.Exceeds answers operation answer) next) ∨
    (∃ cause, (∀ answers, request.operation? answers = none) ∧
      server.begin target id request = server.failWith request.rpc (.invalidArgument cause)) ∨
    ∃ name key source, request = .bulkPut name key source ∧ source.access.readable = true ∧
      server.begin target id request =
        ⟨server, .pulling target id key source, some (.bulkPull source.region)⟩ := by
  cases request with
  | openName name => cases named
  | put _ key value =>
    exact .inl ⟨_, _, fun _ => rfl, rfl, Turn.proceeds_answer 4 .put _ fun _ _ => And.right⟩
  | get _ key maxSize =>
    exact .inl ⟨_, _, fun _ => rfl, rfl, Turn.proceeds_answer 4 .get _ fun _ _ => And.right⟩
  | erase _ key =>
    exact .inl ⟨_, _, fun _ => rfl, rfl, Turn.proceeds_answer 4 .erase _ fun _ _ => And.right⟩
  | length _ key =>
    exact .inl ⟨_, _, fun _ => rfl, rfl, Turn.proceeds_answer 4 .length _ fun _ _ => And.right⟩
  | bulkPut name key source =>
    by_cases readable : source.access.readable = true
    · exact .inr (.inr ⟨name, key, source, rfl, readable, by simp [begin, readable]⟩)
    · refine .inr (.inl ⟨.unreadable source.region, ?_, by simp [begin, readable, Request.rpc]⟩)
      intro answers
      simp only [Request.operation?, readable]
      split <;> simp
  | bulkGet _ key buffer =>
    cases unwritable : Descriptor.unwritable? [buffer] with
    | none =>
      exact .inl ⟨.get key, sendValue server.build buffer, fun _ => by
          simp only [Request.operation?, unwritable, Option.isNone_none, if_true],
        by simp only [begin, unwritable], sendValue_proceeds server.build buffer⟩
    | some cause =>
      exact .inr (.inl ⟨cause, fun _ => by simp [Request.operation?, unwritable],
        by simp [begin, unwritable]⟩)
  | listKeys _ start stem maxKeys keys keySizes =>
    cases unwritable : Descriptor.unwritable? [keys, keySizes] with
    | none =>
      exact .inl ⟨.listKeys start (min maxKeys.toNat keys.count) stem,
        sendKeys server.build keys keySizes, fun _ => by
          simp only [Request.operation?, unwritable, Option.isNone_none, if_true],
        by simp only [begin, unwritable], sendKeys_proceeds server.build keys keySizes⟩
    | some cause =>
      exact .inr (.inl ⟨cause, fun _ => by simp [Request.operation?, unwritable],
        by simp [begin, unwritable]⟩)
  | listPairs _ start stem maxKeys keys keySizes values valueSizes =>
    cases unwritable : Descriptor.unwritable? [keys, keySizes, values, valueSizes] with
    | none =>
      exact .inl ⟨.listPairs start (min (min maxKeys.toNat keys.count) values.count) stem,
        sendPairs server.build keys keySizes values valueSizes, fun _ => by
          simp only [Request.operation?, unwritable, Option.isNone_none, if_true],
        by simp only [begin, unwritable],
        sendPairs_proceeds server.build keys keySizes values valueSizes⟩
    | some cause =>
      exact .inr (.inl ⟨cause, fun _ => by simp [Request.operation?, unwritable],
        by simp [begin, unwritable]⟩)

theorem step_unknown {target : UInt8} {request : Request} {server : Server σ}
    (unknown : ∀ id, request.database? = some id → server.database? target id = none) :
    ∃ after reply, server.step .idle (.ok (.request target request)) =
      ⟨after, .idle, some (.reply reply)⟩ := by
  simp only [step, stepIdle, dispatch]
  split
  · exact ⟨_, _, rfl⟩
  · rename_i provider known
    split
    · split <;> exact ⟨_, _, rfl⟩
    · split
      · exact ⟨_, _, rfl⟩
      · rename_i id opened
        obtain ⟨named, present⟩ := Option.filter_eq_some_iff.mp opened
        have absent := unknown id named
        simp only [database?, known, Option.bind_some] at absent
        simp [absent] at present

theorem failed_opened {server : Server σ} {rpc : Rpc} {error : Error}
    (goesOn : error.breaksConnection = false) {answers : List Frame}
    (follows : Turn.Follows ⟨server, (Phase.fail rpc error).1, (Phase.fail rpc error).2⟩ answers) :
    (Turn.last ⟨server, (Phase.fail rpc error).1, (Phase.fail rpc error).2⟩
      answers).phase.isClosed = false := by
  rw [Phase.fail_answers rpc goesOn] at follows ⊢
  obtain rfl := Turn.eq_nil_of_isOver rfl follows
  rfl

theorem failWith_opened {server : Server σ} {rpc : Rpc} {error : Error}
    (goesOn : error.breaksConnection = false) {answers : List Frame}
    (follows : (server.failWith rpc error).Follows answers) :
    ((server.failWith rpc error).last answers).phase.isClosed = false :=
  failed_opened goesOn follows

/-- The turns that run an operation: only a failure of the engine or a panic gives the call up. -/
theorem runFor_closed {target : UInt8} {id : DatabaseId} {db : Database σ} {server : Server σ}
    (found : server.database? target id = some db) (rpc : Rpc) {operation : Operation}
    {next : operation.Answer → Phase × Option Frame} {bound : Nat}
    {panics : List Frame → operation.Answer → Prop} (proceeds : Turn.Proceeds bound panics next)
    {answers : List Frame}
    (follows : (server.runFor target id rpc operation next).Follows answers) :
    ((server.runFor target id rpc operation next).last answers).phase.isClosed = true ↔
      (∃ error, (db.perform operation).1 = .error error ∧ error.breaksConnection = true) ∨
        ∃ answer, (db.perform operation).1 = .ok answer ∧ panics answers answer := by
  obtain ⟨after, ran, -⟩ := runFor_database found rpc operation next
  rw [ran] at follows ⊢
  cases performed : (db.perform operation).1 with
  | ok answer =>
    rw [performed] at follows
    obtain ⟨rpc, reply, transfers, goes, -, panicking⟩ := proceeds answer
    simp only [goes] at follows ⊢
    rw [Turn.proceed_closed follows, panicking answers]
    simp
  | error error =>
    rw [performed] at follows
    by_cases breaks : error.breaksConnection = true
    · have closed : (Phase.fail rpc error).1 = .closed (.error error) := by
        simp [Phase.fail, breaks]
      obtain rfl := Turn.eq_nil_of_isOver
        (show (Phase.fail rpc error).1.isOver = true by rw [closed]; rfl) follows
      simp [Turn.last, closed, Phase.isClosed, breaks]
    · simp [failed_opened (by simpa using breaks) follows, breaks]

omit [Engine σ] in
theorem known_or_unknown (target : UInt8) (request : Request) (server : Server σ) :
    (∃ id db, request.database? = some id ∧ server.database? target id = some db) ∨
      ∀ id, request.database? = some id → server.database? target id = none := by
  cases named : request.database? with
  | none => exact .inr fun id same => by cases same
  | some id =>
    cases found : server.database? target id with
    | none => exact .inr fun other same => by cases same; exact found
    | some db => exact .inl ⟨id, db, rfl, found⟩

theorem request_stands (target : UInt8) (request : Request) (server : Server σ) :
    (server.step .idle (.ok (.request target request))).Stands 4 := by
  rcases known_or_unknown target request server with ⟨id, db, named, found⟩ | unknown
  · obtain ⟨counted, begun, -⟩ := step_request found named
    rw [begun]
    obtain ⟨operation, next, -, runs, proceeds⟩ | ⟨cause, -, refused⟩ |
      ⟨name, key, source, -, -, asks⟩ := begin_cases target id named counted
    · rw [runs]
      exact Turn.runFor_stands target id _ operation proceeds counted
    · rw [refused]
      exact Turn.failWith_stands ..
    · rw [asks]
      exact .pulls rfl rfl
  · obtain ⟨after, reply, answered⟩ := step_unknown unknown
    rw [answered]
    exact .answered reply rfl rfl

/-- The answer to a pull gives the call up only when the engine fails the put. -/
theorem pulled_closed {target : UInt8} {id : DatabaseId} {db : Database σ} {server : Server σ}
    (found : server.database? target id = some db) {key : Bytes} {source : Descriptor}
    (readable : source.access.readable = true) (name : DatabaseId) {answer : Frame}
    {rest : List Frame} (awaited : (Phase.pulling target id key source).Awaits answer)
    (follows : (server.step (.pulling target id key source) (.ok answer)).Follows rest) :
    ((server.step (.pulling target id key source) (.ok answer)).last rest).phase.isClosed = true ↔
      ∃ operation error,
        (Request.bulkPut name key source).operation? (answer :: rest) = some operation ∧
        (db.perform operation).1 = .error error ∧ error.breaksConnection = true := by
  cases answer <;> simp only [Phase.Awaits] at awaited
  case bulkData segments =>
    simp only [step, stepPulling] at follows ⊢
    simp only [Request.operation?, readable, true_and]
    split at follows
    · rename_i delivered
      have answered : Turn.Proceeds 4 (fun _ _ => False) fun stored =>
        Phase.answer (.ofPut stored) := Turn.proceeds_answer 4 .bulkPut _ fun _ _ => not_false
      rw [if_pos delivered, if_pos delivered, runFor_closed found .bulkPut answered follows]
      simp
    · rename_i other
      rw [if_neg other, if_neg other, failWith_opened rfl follows]
      simp
  case bulkDenied reason =>
    simp only [step, stepPulling] at follows ⊢
    rw [failWith_opened rfl follows]
    simp [Request.operation?]

theorem breaks_iff {target : UInt8} {id : DatabaseId} {request : Request} {server : Server σ}
    {db : Database σ} (named : request.database? = some id)
    (found : server.database? target id = some db) (answers : List Frame) :
    server.Breaks target request answers ↔
      ∃ operation error, request.operation? answers = some operation ∧
        (db.perform operation).1 = .error error ∧ error.breaksConnection = true := by
  constructor
  · rintro ⟨other, held, operation, error, same, there, rest⟩
    obtain rfl := Option.some.inj (named.symm.trans same)
    obtain rfl := Option.some.inj (found.symm.trans there)
    exact ⟨operation, error, rest⟩
  · rintro ⟨operation, error, rest⟩
    exact ⟨id, db, operation, error, named, found, rest⟩

theorem overflows_iff {target : UInt8} {id : DatabaseId} {request : Request} {server : Server σ}
    {db : Database σ} (named : request.database? = some id)
    (found : server.database? target id = some db) (answers : List Frame) :
    server.Overflows target request answers ↔
      ∃ operation answer, request.operation? answers = some operation ∧
        (db.perform operation).1 = .ok answer ∧ server.build = .debug ∧
          request.Exceeds answers operation answer := by
  constructor
  · rintro ⟨other, held, operation, answer, same, there, rest⟩
    obtain rfl := Option.some.inj (named.symm.trans same)
    obtain rfl := Option.some.inj (found.symm.trans there)
    exact ⟨operation, answer, rest⟩
  · rintro ⟨operation, answer, rest⟩
    exact ⟨id, db, operation, answer, named, found, rest⟩

/-- A call is given up on its own account exactly when the engine fails it with an error that is
taken for a failure of the connection, or sizes without a sum are summed up in a debug build. -/
theorem request_closed {target : UInt8} {request : Request} {server : Server σ}
    {answers : List Frame}
    (follows : (server.step .idle (.ok (.request target request))).Follows answers)
    (ended : ((server.step .idle (.ok (.request target request))).last answers).phase.isOver =
      true) :
    ((server.step .idle (.ok (.request target request))).last answers).phase.isClosed = true ↔
      server.Breaks target request answers ∨ server.Overflows target request answers := by
  rcases known_or_unknown target request server with ⟨id, db, named, found⟩ | unknown
  · obtain ⟨counted, begun, kept, continues⟩ := step_request found named
    rw [breaks_iff named found, overflows_iff named found, ← continues.build]
    rw [begun] at follows ended ⊢
    obtain ⟨operation, next, runs, begins, proceeds⟩ | ⟨cause, never, refused⟩ |
      ⟨name, key, source, rfl, readable, asks⟩ := begin_cases target id named counted
    · rw [begins] at follows ⊢
      rw [runFor_closed kept _ proceeds follows]
      simp [runs]
    · rw [refused] at follows ⊢
      rw [failWith_opened rfl follows]
      simp [never]
    · rw [asks] at follows ended ⊢
      cases answers with
      | nil => simp [Turn.last, Phase.isOver] at ended
      | cons answer rest =>
        have sound : ¬ ∃ operation outcome,
            (Request.bulkPut name key source).operation? (answer :: rest) = some operation ∧
              (db.perform operation).1 = .ok outcome ∧ counted.build = .debug ∧
              (Request.bulkPut name key source).Exceeds (answer :: rest) operation outcome := by
          rintro ⟨operation, outcome, -, -, -, exceeds⟩
          cases operation <;> exact exceeds
        rw [or_iff_left sound]
        exact pulled_closed kept readable name follows.1 follows.2
  · obtain ⟨after, reply, answered⟩ := step_unknown unknown
    rw [answered] at follows ⊢
    obtain rfl := Turn.eq_nil_of_isOver (show Phase.idle.isOver = true from rfl) follows
    constructor
    · intro closed
      cases closed
    · rintro (⟨id, db, -, -, named, found, -⟩ | ⟨id, db, -, -, named, found, -⟩) <;>
        rw [unknown id named] at found <;> cases found

end Server

/-- The connection was closed in the middle of a call. -/
def Phase.GivenUp : Phase → Prop
  | closed (.error _) | panicked _ => True
  | _ => False

namespace Connection

/-- The rest of a call, from a turn that is still to be written. -/
def resume (turn : Turn σ) (answers : List Frame) : Progress σ :=
  let first := write turn
  let others := run (first.server.settle first.phase) first.server (answers.map .ok)
  { others with written := first.written ++ others.written }

theorem run_request (target : UInt8) (request : Request) (answers : List Frame)
    (server : Server σ) :
    run .idle server (.ok (.request target request) :: answers.map .ok) =
      resume (server.step .idle (.ok (.request target request))) answers := rfl

theorem run_closed {phase : Phase} (closed : phase.isClosed = true) (server : Server σ)
    (readings : List Reading) : run phase server readings = ⟨server, phase, []⟩ := by
  cases readings with
  | nil => rfl
  | cons reading rest => simp only [run, closed, if_true]

theorem resume_cons {turn : Turn σ} (running : turn.server.stopped = false) {frame : Frame}
    (said : turn.said = some frame) (writable : frame.Writable)
    (opened : turn.phase.isClosed = false) (answer : Frame) (rest : List Frame) :
    resume turn (answer :: rest) =
      let later := resume (turn.server.step turn.phase (.ok answer)) rest
      { later with written := frame.form ++ later.written } := by
  have wrote : write turn = ⟨turn.server, turn.phase, frame.form⟩ := by
    simp only [write, said, Frame.encode_of_writable writable]
  simp only [resume, wrote, Server.settle_of_running running, List.map_cons, run, opened,
    Bool.false_eq_true, if_false, advance]

theorem resume_nil {turn : Turn σ} (running : turn.server.stopped = false) {frame : Frame}
    (said : turn.said = some frame) (writable : frame.Writable) :
    resume turn [] = ⟨turn.server, turn.phase, frame.form⟩ := by
  have wrote : write turn = ⟨turn.server, turn.phase, frame.form⟩ := by
    simp only [write, said, Frame.encode_of_writable writable]
  simp only [resume, wrote, Server.settle_of_running running, List.map_nil, run, List.append_nil]

theorem resume_refused {turn : Turn σ} (running : turn.server.stopped = false) {frame : Frame}
    (said : turn.said = some frame) (large : ¬ frame.Writable) (answers : List Frame) :
    resume turn answers =
      ⟨turn.server, .closed (.error (.protocol (.payloadTooLarge frame.payloadSize))), []⟩ := by
  have wrote : write turn =
      ⟨turn.server, .closed (.error (.protocol (.payloadTooLarge frame.payloadSize))), []⟩ := by
    simp only [write, said, Frame.encode_of_not_writable large]
  have ended (error : Error) : (Phase.closed (.error error)).isClosed = true := rfl
  simp only [resume, wrote, Server.settle_of_running running, run_closed (ended _),
    List.append_nil]

theorem step_running {turn : Turn σ} (running : turn.server.stopped = false) {answer : Frame}
    (awaited : turn.phase.Awaits answer) :
    (turn.server.step turn.phase (.ok answer)).server.stopped = false := by
  have goesOn : answer ≠ .shutdown := by
    rintro rfl
    cases stands : turn.phase <;> simp [stands, Phase.Awaits] at awaited
  exact (Server.step_continues goesOn turn.phase turn.server).stopped.trans running

/-- A call that is not given up, and all of whose frames can be written, is answered at its end and
leaves the connection idle. -/
theorem resume_answered {turn : Turn σ} {bound : Nat} {answers : List Frame}
    (running : turn.server.stopped = false) (stands : turn.Stands bound)
    (follows : turn.Follows answers) (ended : (turn.last answers).phase.isOver = true)
    (opened : (turn.last answers).phase.isClosed = false)
    (writable : ∀ frame ∈ turn.saying answers, frame.Writable) :
    (resume turn answers).phase = .idle ∧ (resume turn answers).server.stopped = false ∧
      (resume turn answers).written = (turn.saying answers).flatMap Frame.form ∧
      ∃ asks reply, turn.saying answers = asks ++ [.reply reply] ∧
        ∀ ask ∈ asks, ask.isReply = false := by
  induction answers generalizing turn bound with
  | nil =>
    cases stands with
    | answered reply idle said =>
      have wrote : (Frame.reply reply).Writable := writable _ (by simp [Turn.saying, said])
      rw [resume_nil running said wrote]
      exact ⟨idle, running, by simp [Turn.saying, said], [], reply, by simp [Turn.saying, said],
        by simp⟩
    | pulls waits said => simp [Turn.last, waits, Phase.isOver] at ended
    | pushes waits said few => simp [Turn.last, waits, Phase.isOver] at ended
    | broken error closed silent breaks => simp [Turn.last, closed, Phase.isClosed] at opened
    | panicked cause stopped silent => simp [Turn.last, stopped, Phase.isClosed] at opened
  | cons answer rest ih =>
    obtain ⟨awaited, later⟩ := follows
    obtain ⟨fewer, rfl, goesOn⟩ := stands.step awaited
    obtain ⟨ask, said, notReply, waits⟩ := stands.asks awaited
    have wrote : ask.Writable := writable _ (by simp [Turn.saying, said])
    obtain ⟨idle, still, written, asks, reply, whole, others⟩ :=
      ih (step_running running awaited) goesOn later ended opened fun frame member =>
        writable frame (by simp [Turn.saying, member])
    rw [resume_cons running said wrote waits]
    refine ⟨idle, still, ?_, ask :: asks, reply, ?_, ?_⟩
    · simp [Turn.saying, said, written]
    · simp [Turn.saying, said, whole]
    · intro other member
      rcases List.mem_cons.mp member with rfl | member
      · exact notReply
      · exact others other member

/-- A call that is given up, or some frame of which cannot be written, closes the connection without
a reply. -/
theorem resume_broken {turn : Turn σ} {bound : Nat} {answers : List Frame}
    (running : turn.server.stopped = false) (stands : turn.Stands bound)
    (follows : turn.Follows answers) (ended : (turn.last answers).phase.isOver = true)
    (broken : ¬ ((turn.last answers).phase.isClosed = false ∧
      ∀ frame ∈ turn.saying answers, frame.Writable)) :
    (resume turn answers).phase.GivenUp ∧
      ∃ asks : List Frame, (resume turn answers).written = asks.flatMap Frame.form ∧
        ∀ ask ∈ asks, ask.Writable ∧ ask.isReply = false := by
  induction answers generalizing turn bound with
  | nil =>
    cases stands with
    | answered reply idle said =>
      by_cases wrote : (Frame.reply reply).Writable
      · exact absurd ⟨by simp [Turn.last, idle, Phase.isClosed], by simp [Turn.saying, said, wrote]⟩
          broken
      · rw [resume_refused running said wrote]
        exact ⟨trivial, [], rfl, by simp⟩
    | pulls waits said => simp [Turn.last, waits, Phase.isOver] at ended
    | pushes waits said few => simp [Turn.last, waits, Phase.isOver] at ended
    | broken error closed silent breaks =>
      have given : resume turn [] = ⟨turn.server, .closed (.error error), []⟩ := by
        simp [resume, write, silent, closed, Server.settle_of_running running, run]
      rw [given]
      exact ⟨trivial, [], rfl, by simp⟩
    | panicked cause stopped silent =>
      have given : resume turn [] = ⟨turn.server, .panicked cause, []⟩ := by
        simp [resume, write, silent, stopped, Server.settle_of_running running, run]
      rw [given]
      exact ⟨trivial, [], rfl, by simp⟩
  | cons answer rest ih =>
    obtain ⟨awaited, later⟩ := follows
    obtain ⟨fewer, rfl, goesOn⟩ := stands.step awaited
    obtain ⟨ask, said, notReply, waits⟩ := stands.asks awaited
    by_cases wrote : ask.Writable
    · have further : ¬ (((turn.server.step turn.phase (.ok answer)).last rest).phase.isClosed =
          false ∧ ∀ frame ∈ (turn.server.step turn.phase (.ok answer)).saying rest,
            frame.Writable) := by
        rintro ⟨opened, writable⟩
        refine broken ⟨opened, ?_⟩
        intro frame member
        simp only [Turn.saying, said, Option.toList_some, List.singleton_append, List.mem_cons]
          at member
        rcases member with rfl | member
        · exact wrote
        · exact writable frame member
      obtain ⟨closed, asks, written, others⟩ :=
        ih (step_running running awaited) goesOn later ended further
      rw [resume_cons running said wrote waits]
      refine ⟨closed, ask :: asks, by simp [written], ?_⟩
      intro other member
      rcases List.mem_cons.mp member with rfl | member
      · exact ⟨wrote, notReply⟩
      · exact others other member
    · rw [resume_refused running said wrote]
      exact ⟨trivial, [], rfl, by simp⟩

/-- The call has been answered: one reply was written, after what the connection asked for, and the
connection waits for the next call. -/
def Answers (progress : Progress σ) : Prop :=
  progress.phase = .idle ∧ progress.server.stopped = false ∧
    ∃ asks reply, takeFrames progress.written = ((asks ++ [.reply reply]).map .ok, []) ∧
      ∀ ask ∈ asks, ask.isReply = false

/-- The connection has been given up without a reply. -/
def GivesUp (progress : Progress σ) : Prop :=
  progress.phase.GivenUp ∧
    ∃ asks : List Frame, takeFrames progress.written = (asks.map .ok, []) ∧
      ∀ ask ∈ asks, ask.isReply = false

/-- On any engine, a client that keeps to the protocol gives at most four answers. When its call is
over it has been answered, and the connection goes on, exactly when the engine did not fail with an
error that is taken for a failure of the connection, no sizes without a sum were summed up in a
debug build, and every frame of the call could be written. Otherwise the connection was given up
without a reply. -/
theorem answers_iff {server : Server σ} (running : server.stopped = false) (target : UInt8)
    (request : Request) {answers : List Frame}
    (follows : (server.step .idle (.ok (.request target request))).Follows answers) :
    let turn := server.step .idle (.ok (.request target request))
    let progress := run .idle server (.ok (.request target request) :: answers.map .ok)
    answers.length ≤ 4 ∧ ((turn.last answers).phase.isOver = true →
      (Answers progress ↔ ¬ server.Breaks target request answers ∧
        ¬ server.Overflows target request answers ∧
          ∀ frame ∈ turn.saying answers, frame.Writable) ∧
      (¬ Answers progress → GivesUp progress)) := by
  intro turn progress
  have stands := Server.request_stands target request server
  have still : turn.server.stopped = false :=
    (Server.step_continues (show Frame.request target request ≠ .shutdown by simp) .idle
      server).stopped.trans running
  refine ⟨stands.length_le follows, fun ended => ?_⟩
  have closes := Server.request_closed follows ended
  have course : progress = resume turn answers := run_request target request answers server
  by_cases fine : (turn.last answers).phase.isClosed = false ∧
      ∀ frame ∈ turn.saying answers, frame.Writable
  · obtain ⟨opened, writable⟩ := fine
    obtain ⟨idle, goesOn, written, asks, reply, whole, others⟩ :=
      resume_answered still stands follows ended opened writable
    have answered : Answers progress := by
      rw [course]
      refine ⟨idle, goesOn, asks, reply, ?_, others⟩
      rw [written, takeFrames_forms _ writable, whole]
    have sound : ¬ (server.Breaks target request answers ∨
        server.Overflows target request answers) := by
      rw [← closes]
      simpa using opened
    obtain ⟨unbroken, summed⟩ := not_or.mp sound
    exact ⟨iff_of_true answered ⟨unbroken, summed, writable⟩, fun not => absurd answered not⟩
  · obtain ⟨given, asks, written, others⟩ :=
      resume_broken still stands follows ended fine
    have givesUp : GivesUp progress := by
      rw [course]
      refine ⟨given, asks, ?_, fun ask member => (others ask member).2⟩
      rw [written, takeFrames_forms _ fun ask member => (others ask member).1]
    have unanswered : ¬ Answers progress := by
      rintro ⟨idle, -⟩
      rw [course] at idle
      rw [idle] at given
      exact given
    refine ⟨iff_of_false unanswered ?_, fun _ => givesUp⟩
    rintro ⟨unbroken, summed, writable⟩
    have sound := not_or.mpr ⟨unbroken, summed⟩
    rw [← closes] at sound
    exact fine ⟨by simpa using sound, writable⟩

/-- A put whose value is pulled, on an engine that fails on demand and is not asked to. -/
theorem answers_iff_pulled :
    let server := Server.ofEngine (Store.brittle { map := { options := {} } })
    let request := Request.bulkPut ⟨1⟩ [7] ⟨5, .readOnly, [2, 0]⟩
    Answers (run .idle server [.ok (.request 1 request), .ok (.bulkData [[1, 2], []])]) := by
  intro server request
  have follows : (server.step .idle (.ok (.request 1 request))).Follows
      [.bulkData [[1, 2], []]] := ⟨trivial, trivial⟩
  obtain ⟨-, ends⟩ := answers_iff rfl 1 request follows
  have unbroken : ¬ server.Breaks 1 request [.bulkData [[1, 2], []]] := by
    rw [Server.breaks_iff rfl (Server.database?_ofEngine _)]
    rintro ⟨operation, error, runs, failed, -⟩
    obtain rfl : Operation.put [7] [1, 2] = operation := Option.some.inj runs
    have stored : ((Database.ofEngine (Store.brittle { map := { options := {} } })).perform
        (.put [7] [1, 2])).1 = .ok true := by rfl
    rw [stored] at failed
    cases failed
  have summed : ¬ server.Overflows 1 request [.bulkData [[1, 2], []]] := by
    rintro ⟨-, -, -, -, -, -, -, -, debug, -⟩
    cases debug
  exact (ends rfl).1.mpr ⟨unbroken, summed, by decide +kernel⟩

/-- A get that the engine fails with an error of a stream of its own is not answered. -/
theorem engine_stream_error_unanswered :
    let key := Bytes.ofText "!io"
    let faults := [(key, Error.stream (.told "cable cut"))]
    let server := Server.ofEngine (Store.brittle { faults, map := { options := {} } })
    let progress := run .idle server [.ok (.request 1 (.get ⟨1⟩ key 9))]
    progress.phase = .closed (.error (.stream (.told "cable cut"))) ∧ progress.written = [] :=
  ⟨rfl, rfl⟩

end Connection

end KeyDepot
