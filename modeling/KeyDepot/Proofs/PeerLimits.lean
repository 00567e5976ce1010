import KeyDepot.Proofs.PoolErasure
import KeyDepot.Proofs.SlotLayout

/-! What the other side can bring about during a call. It reads the value of a put that it is to
fetch, and nothing else; it writes into the buffers a call has exposed for it, which are zero at
first, and what the call returns is a part of them. -/

namespace KeyDepot

open Bulk

namespace Slots

/-- The first `count` slots hold leading parts of their segments, and the others are as they were.
-/
def Leading (count : Nat) (segments slots filled : List Bytes) : Prop :=
  (∀ place < count, ∃ segment item, segments[place]? = some segment ∧
    filled[place]? = some item ∧ item <+: segment) ∧
  ∀ place, count ≤ place → filled[place]? = slots[place]?

theorem leading_of_fill {index : Nat} {slots segments filled : List Bytes} {lengths : List Nat}
    (within : lengths.length ≤ slots.length)
    (read : fill index slots segments lengths = (filled, none)) :
    Leading lengths.length segments slots filled := by
  induction slots generalizing index segments filled lengths with
  | nil =>
    obtain rfl := List.eq_nil_of_length_eq_zero (Nat.le_zero.mp within)
    obtain ⟨rfl, -⟩ := Prod.mk.inj read
    exact ⟨by simp, fun _ _ => rfl⟩
  | cons slot slots ih =>
    cases lengths with
    | nil =>
      obtain ⟨rfl, -⟩ := Prod.mk.inj read
      exact ⟨by simp, fun _ _ => rfl⟩
    | cons length lengths =>
      cases segments with
      | nil => simp [fill] at read
      | cons segment segments =>
        by_cases short : segment.length < length
        · simp [fill, short] at read
        · cases later : fill (index + 1) slots segments lengths with
          | mk others fault =>
            have same : (segment.take length :: others, fault) = (filled, none) := by
              simpa [fill, short, later] using read
            obtain ⟨rfl, rfl⟩ := Prod.mk.inj same
            obtain ⟨leading, kept⟩ := ih (Nat.le_of_succ_le_succ within) later
            refine ⟨fun place before => ?_, fun place beyond => ?_⟩
            · cases place with
              | zero => exact ⟨segment, _, rfl, rfl, List.take_prefix ..⟩
              | succ place => exact leading place (Nat.lt_of_succ_lt_succ before)
            · cases place with
              | zero => exact absurd beyond (Nat.not_succ_le_zero _)
              | succ place => exact kept place (Nat.le_of_succ_le_succ beyond)

theorem length_unpackLengths {count : Nat} {packed : Bytes}
    (room : count * lengthWidth ≤ packed.length) :
    (unpackLengths count packed).length = count := by
  induction count generalizing packed with
  | zero => rfl
  | succ count ih =>
    rw [Nat.succ_mul] at room
    have front : (packed.take lengthWidth).length = lengthWidth :=
      List.length_take_of_le (by omega)
    simp only [unpackLengths, Bytes.splitExact?, front, if_true, List.length_cons]
    rw [ih (by rw [List.length_drop]; omega)]

/-- A listing that succeeds fills as many slots as it says. The room for lengths that a caller makes
is enough for all its slots. -/
theorem leading_of_readListing {slots filled : Slots}
    {keys keyLengths values valueLengths : List Bytes} {reply : Reply} {count : Nat}
    (read : Call.readListing slots keys keyLengths values valueLengths reply =
      .ok (.ok count, filled))
    (room : slots.keys.length * lengthWidth ≤ keyLengths.flatten.length) :
    count ≤ slots.keys.length ∧ Leading count keys slots.keys filled.keys ∧
      (slots.keys.length = slots.values.length →
        slots.values.length * lengthWidth ≤ valueLengths.flatten.length →
        Leading count values slots.values filled.values) := by
  simp only [Call.readListing] at read
  split at read
  · rename_i told
    have few : min told.toNat slots.keys.length ≤ slots.keys.length := Nat.min_le_right ..
    generalize min told.toNat slots.keys.length = number at read few
    have enough : number * lengthWidth ≤ keyLengths.flatten.length :=
      Nat.le_trans (Nat.mul_le_mul_right _ few) room
    have counted := length_unpackLengths enough
    cases readKeys : fill 0 slots.keys keys (unpackLengths number keyLengths.flatten) with
    | mk filledKeys keyFault =>
    rw [readKeys] at read
    cases keyFault with
    | some fault => cases read
    | none =>
      cases readValues : fill 0 slots.values values
        (unpackLengths number valueLengths.flatten) with
      | mk filledValues fault =>
      rw [readValues] at read
      cases fault with
      | some fault => cases read
      | none =>
        obtain ⟨same, rfl⟩ := Prod.mk.inj (Except.ok.inj read)
        obtain rfl := Except.ok.inj same
        have keysLead := leading_of_fill (by omega) readKeys
        rw [counted] at keysLead
        refine ⟨few, keysLead, fun paired valueRoom => ?_⟩
        have valuesCounted : (unpackLengths number valueLengths.flatten).length = number :=
          length_unpackLengths (Nat.le_trans (Nat.mul_le_mul_right _ (paired ▸ few)) valueRoom)
        have valuesLead := leading_of_fill (by omega) readValues
        rwa [valuesCounted] at valuesLead
  · obtain ⟨resized, -, rest⟩ := bind_eq_ok_iff.mp read
    obtain ⟨values, -, told⟩ := bind_eq_ok_iff.mp rest
    cases told
  · cases read

end Slots

theorem Call.value_of_readReply {db : DatabaseId} {key : Bytes} {maxSize : Nat} {buffer : Bytes}
    {reply : Reply} {returned : Returned (.get db key maxSize)} {value : Bytes}
    (read : (Call.get db key maxSize).readReply [[buffer]] reply = .ok returned)
    (told : returned.outcome = .ok (some value)) :
    ∃ size, reply = .bulkGot .ok size ∧ size.toNat ≤ buffer.length ∧
      value = buffer.take size.toNat := by
  obtain rfl := Except.ok.inj read
  cases reply with
  | bulkGot status size =>
    cases status with
    | ok =>
      by_cases within : size.toNat ≤ buffer.length
      · have same : some (buffer.take size.toNat) = some value := by
          simpa [within] using told
        exact ⟨size, rfl, within, (Option.some.inj same).symm⟩
      · simp [within] at told
    | _ => cases told
  | _ => cases told

namespace Exchange

/-- Each time the caller comes to this frame, it denies it. -/
def Denies (readings : List Reading) (frame : Frame) (course : Exchange) : Prop :=
  ∀ number, readings[number]? = some (.ok frame) → number < course.said.length →
    ∃ reason, course.said[number + 1]? = some (.bulkDenied reason)

/-- These contents are sent each time the caller comes to a pull of the region, if they can be sent
at all, and no contents are ever sent otherwise. -/
structure Serves (readings : List Reading) (region : UInt64) (contents : List Bytes)
    (course : Exchange) : Prop where
  only : ∀ number segments, course.said[number]? = some (.bulkData segments) →
    segments = contents ∧
      ∃ before, number = before + 1 ∧ readings[before]? = some (.ok (.bulkPull region))
  always : (Frame.bulkData contents).Writable → ∀ number,
    readings[number]? = some (.ok (.bulkPull region)) → number < course.said.length →
      course.said[number + 1]? = some (.bulkData contents)
  others : ∀ other ≠ region, course.Denies readings (.bulkPull other)

/-- The writes to a region that the caller has confirmed, in order. -/
def confirmed (readings : List Reading) (region : UInt64) (course : Exchange) :
    List SegmentWrite :=
  Regions.confirmed region readings course.said.tail

end Exchange

namespace Client

variable {client : Client} {call : Call} {target : UInt8} {peer : String}
  {readings : List Reading}

/-- What the caller says to a frame depends on the regions then. -/
theorem course_at {kept : Regions → Prop}
    (stays : ∀ {regions frame answer after}, kept regions →
      Regions.answer? frame regions = some (answer, after) → kept after)
    (holds : ∀ {staged after}, client.stage call = .ok (staged, after) → kept after.regions)
    {number : Nat} {frame : Frame}
    (read : readings[number]? = some (.ok frame))
    (reached : number < (client.course call target peer readings).said.length) :
    ∃ between, kept between ∧
      (client.course call target peer readings).said[number + 1]? = between.reply? frame := by
  rcases client.course_cases call target peer readings with
    ⟨silent, -⟩ | ⟨staged, after, prepared, talked⟩
  · rw [silent] at reached
    exact absurd reached (Nat.not_lt_zero _)
  · rw [talked] at reached ⊢
    exact converse_at stays (holds prepared) read (Nat.le_of_lt_succ reached)

theorem course_denies (kept : Regions → Prop)
    (stays : ∀ {regions frame answer after}, kept regions →
      Regions.answer? frame regions = some (answer, after) → kept after)
    (holds : ∀ {staged after}, client.stage call = .ok (staged, after) → kept after.regions)
    {frame : Frame}
    (denied : ∀ regions, kept regions → ∃ reason,
      regions.answer? frame = some (.bulkDenied reason, regions) ∧
        (Frame.bulkDenied reason).Writable) :
    (client.course call target peer readings).Denies readings frame := by
  intro number read reached
  obtain ⟨between, still, said⟩ := course_at stays holds read reached
  obtain ⟨reason, answered, writable⟩ := denied between still
  refine ⟨reason, said.trans ?_⟩
  simp [Regions.reply?, answered, Option.filter_some, writable]

end Client

namespace Regions

theorem Row.answer? {first : Nat} {regions after : Regions} {frame answer : Frame}
    (rows : ∃ contents, contents.length ≤ 4 ∧ regions.Row first contents)
    (answered : regions.answer? frame = some (answer, after)) :
    ∃ contents, contents.length ≤ 4 ∧ after.Row first contents := by
  obtain ⟨contents, few, row⟩ := rows
  rcases answer?_eq_some answered with ⟨rfl, -⟩ | ⟨id, writes, -, -, pushed⟩
  · exact ⟨contents, few, row⟩
  · obtain ⟨place, segments, -, -, kept⟩ := row.pushed (by omega) pushed
    exact ⟨_, by simpa using few, kept⟩

theorem pull_of_reply? {regions : Regions} {frame : Frame} {segments : List Bytes}
    (told : regions.reply? frame = some (.bulkData segments)) :
    ∃ id, frame = .bulkPull id ∧ regions.pull id = .ok segments := by
  obtain ⟨pair, answered, same⟩ := Option.map_eq_some_iff.mp (Option.filter_eq_some_iff.mp told).1
  obtain ⟨answer, after⟩ := pair
  obtain rfl : answer = .bulkData segments := same
  cases frame with
  | bulkPull id =>
    refine ⟨id, rfl, ?_⟩
    simp only [answer?] at answered
    split at answered
    · rename_i contents pulled
      simp_all
    · simp at answered
  | bulkPush id writes =>
    simp only [answer?] at answered
    split at answered <;> simp at answered
  | _ => cases answered

theorem find?_of_pull {regions : Regions} {id : UInt64} {segments : List Bytes}
    (pulled : regions.pull id = .ok segments) : ∃ region, regions.find? id = some region := by
  simp only [pull] at pulled
  split at pulled
  · cases pulled
  · rename_i region found
    exact ⟨region, found⟩

theorem ids_grants (first : Nat) (contents : List (List Bytes)) :
    (grants first contents).map Grant.id =
      (List.range contents.length).map fun place => UInt64.ofNat (first + place) := by
  apply List.ext_getElem?
  intro place
  rcases Nat.lt_or_ge place contents.length with within | beyond
  · simp [grants, within]
  · simp [grants, beyond]

theorem Row.closed {first : Nat} {contents : List (List Bytes)} {regions : Regions}
    (row : regions.Row first contents) {id : UInt64} {region : Region}
    (found : regions.find? id = some region) : region.access.readable = false := by
  have live : id ∈ regions.ids :=
    List.mem_map.mpr ⟨region, List.mem_of_find?_eq_some found, id_of_find? found⟩
  obtain ⟨place, within, rfl⟩ := row.only id live
  obtain ⟨held, looked, access, -⟩ := row.held place _ (List.getElem?_eq_getElem within)
  obtain rfl := Option.some.inj (found.symm.trans looked)
  rw [access]
  rfl

end Regions

namespace Client

variable {client : Client} {call : Call} {target : UInt8} {peer : String}
  {readings : List Reading} {first : Nat} {contents : List (List Bytes)}

theorem denies_of_row
    (rows : ∀ {staged after}, client.stage call = .ok (staged, after) →
      ∃ contents, contents.length ≤ 4 ∧ after.regions.Row first contents) (region : UInt64) :
    (client.course call target peer readings).Denies readings (.bulkPull region) := by
  refine course_denies (fun regions =>
    ∃ contents, contents.length ≤ 4 ∧ regions.Row first contents) Regions.Row.answer? rows ?_
  rintro regions ⟨held, -, still⟩
  exact Regions.denies_pull fun region found => still.closed found

theorem stage_put_inside {db : DatabaseId} {key value : Bytes}
    (inside : TransferMode.select key.length value.length client.settings.maxInline = .inside) :
    client.stage (.put db key value) = .ok (⟨.put db key value, []⟩, client) := by
  simp only [stage, inside]
  rfl

theorem staged_get (clear : client.regions.ids = []) {db : DatabaseId} {key : Bytes}
    {maxSize : Nat}
    (bulk : TransferMode.select key.length maxSize client.settings.maxInline = .bulk)
    {staged : Staged} {after : Client}
    (prepared : client.stage (.get db key maxSize) = .ok (staged, after)) :
    staged.regions = [UInt64.ofNat (client.regions.next + 0)] ∧
      after.Rows client.regions.next [[Bytes.zeros maxSize]] client.settings := by
  simp only [stage, bulk] at prepared
  obtain ⟨⟨region, last⟩, exposed, same⟩ := bind_eq_ok_iff.mp prepared
  obtain ⟨rfl, rfl⟩ := Prod.mk.inj (Except.ok.inj same)
  obtain ⟨described, rows⟩ := (Rows.of_clear clear).exposed (by decide) exposed
  have number : region.id = _ := congrArg Descriptor.region described
  exact ⟨by rw [number]; rfl, rows⟩

theorem stage_row (clear : client.regions.ids = [])
    (fetched : ∀ db key value, call = .put db key value →
      TransferMode.select key.length value.length client.settings.maxInline = .inside)
    {staged : Staged} {after : Client} (prepared : client.stage call = .ok (staged, after)) :
    ∃ contents, contents.length ≤ 4 ∧ after.regions.Row client.regions.next contents := by
  have none_exposed : client.regions.Row client.regions.next [] := .of_clear _ clear
  have unexposed {request : Request} (same : (.ok (⟨request, []⟩, client) :
      Except Panic (Staged × Client)) = .ok (staged, after)) :
      ∃ contents, contents.length ≤ 4 ∧ after.regions.Row client.regions.next contents := by
    obtain ⟨-, rfl⟩ := Prod.mk.inj (Except.ok.inj same)
    exact ⟨[], by decide, none_exposed⟩
  cases call with
  | put db key value =>
    rw [stage_put_inside (fetched db key value rfl)] at prepared
    exact unexposed prepared
  | get db key maxSize =>
    cases mode : TransferMode.select key.length maxSize client.settings.maxInline with
    | inside =>
      simp only [stage, mode] at prepared
      exact unexposed prepared
    | bulk => exact ⟨_, by simp, (staged_get clear mode prepared).2.row⟩
  | listKeys db start stem slots => exact ⟨_, by simp, (staged_listKeys clear prepared).2.row⟩
  | listPairs db start stem slots valueSlots =>
    exact ⟨_, by simp, (staged_listPairs clear prepared).2.row⟩
  | _ => exact unexposed prepared

theorem staged_put {db : DatabaseId} {key value : Bytes}
    (bulk : TransferMode.select key.length value.length client.settings.maxInline = .bulk)
    {staged : Staged} {after : Client}
    (prepared : client.stage (.put db key value) = .ok (staged, after)) :
    ∃ region, client.Exposes .readOnly [value] region after := by
  rcases Nat.lt_or_ge Bytes.maxLength value.length with long | short
  · rw [stage_put_panics bulk long] at prepared
    cases prepared
  · obtain ⟨region, last, made, exposes⟩ := @stage_put_bulk client db key value bulk short
    obtain ⟨-, rfl⟩ := Prod.mk.inj (Except.ok.inj (made.symm.trans prepared))
    exact ⟨region, exposes⟩

theorem stage_put_unwritable (clear : client.regions.ids = []) {db : DatabaseId}
    {key value : Bytes} {staged : Staged} {after : Client}
    (prepared : client.stage (.put db key value) = .ok (staged, after)) {id : UInt64}
    {region : Region} (found : after.regions.find? id = some region) :
    region.access.writable = false := by
  have live : id ∈ after.regions.ids :=
    List.mem_map.mpr ⟨region, List.mem_of_find?_eq_some found, Regions.id_of_find? found⟩
  cases mode : TransferMode.select key.length value.length client.settings.maxInline with
  | inside =>
    rw [stage_put_inside mode] at prepared
    obtain ⟨-, rfl⟩ := Prod.mk.inj (Except.ok.inj prepared)
    rw [clear] at live
    cases live
  | bulk =>
    obtain ⟨own, exposes⟩ := staged_put mode prepared
    rw [exposes.ids, clear] at live
    obtain rfl := List.mem_singleton.mp live
    obtain ⟨held, looked, access, -⟩ := exposes.held
    obtain rfl := Option.some.inj (found.symm.trans looked)
    rw [access]
    rfl

theorem put_denies (clear : client.regions.ids = []) (db : DatabaseId) (key value : Bytes)
    (region : UInt64) (writes : List SegmentWrite) :
    (client.course (.put db key value) target peer readings).Denies readings
      (.bulkPush region writes) := by
  refine course_denies (fun regions => ∀ id region, regions.find? id = some region →
    region.access.writable = false) ?_
    (fun prepared _ _ found => stage_put_unwritable clear prepared found)
    fun regions closed => Regions.denies_push (closed region) writes
  intro regions frame answer after closed answered
  rcases Regions.answer?_eq_some answered with ⟨rfl, -⟩ | ⟨id, writes, -, -, pushed⟩
  · exact closed
  · obtain ⟨region, found, writable, -⟩ := Regions.push_eq_ok pushed
    rw [closed id region found] at writable
    cases writable

theorem read_of_course {number : Nat} {answer : Frame}
    (said : (client.course call target peer readings).said[number + 1]? = some answer) :
    ∃ frame, readings[number]? = some (.ok frame) := by
  rcases client.course_cases call target peer readings with ⟨silent, -⟩ | ⟨staged, after, -, talked⟩
  · simp [silent] at said
  · rw [talked] at said
    exact read_of_said said

/-- Regions that serve the value of a put, and nothing else. -/
structure Offers (own : UInt64) (value : Bytes) (regions : Regions) : Prop where
  pull : regions.pull own = .ok [value]
  only : ∀ {id region}, regions.find? id = some region → id = own
  unwritable : ∀ {id region}, regions.find? id = some region → region.access.writable = false

/-- No push is accepted, so the regions are at every answer what they were at first. -/
theorem Offers.answer? {own : UInt64} {value : Bytes} {regions after : Regions}
    {frame answer : Frame} (offers : Offers own value regions)
    (answered : regions.answer? frame = some (answer, after)) : Offers own value after := by
  rcases Regions.answer?_eq_some answered with ⟨rfl, -⟩ | ⟨id, writes, -, -, pushed⟩
  · exact offers
  · obtain ⟨held, found, writable, -⟩ := Regions.push_eq_ok pushed
    rw [offers.unwritable found] at writable
    cases writable

theorem staged_put_offers (clear : client.regions.ids = []) {db : DatabaseId} {key value : Bytes}
    (bulk : TransferMode.select key.length value.length client.settings.maxInline = .bulk)
    {staged : Staged} {after : Client}
    (prepared : client.stage (.put db key value) = .ok (staged, after)) :
    Offers (UInt64.ofNat client.regions.next) value after.regions where
  pull := by
    obtain ⟨region, exposes⟩ := staged_put bulk prepared
    exact exposes.number ▸ exposes.held.pull rfl
  only := by
    intro id region found
    obtain ⟨own, exposes⟩ := staged_put bulk prepared
    have live : id ∈ after.regions.ids :=
      List.mem_map.mpr ⟨region, List.mem_of_find?_eq_some found, Regions.id_of_find? found⟩
    rw [exposes.ids, clear, exposes.number] at live
    exact List.mem_singleton.mp live
  unwritable := stage_put_unwritable clear prepared

theorem put_serves (clear : client.regions.ids = []) {db : DatabaseId} {key value : Bytes}
    (bulk : TransferMode.select key.length value.length client.settings.maxInline = .bulk) :
    (client.course (.put db key value) target peer readings).Serves readings
      (UInt64.ofNat client.regions.next) [value] := by
  have holds {staged : Staged} {after : Client} :
      client.stage (.put db key value) = .ok (staged, after) →
        Offers (UInt64.ofNat client.regions.next) value after.regions :=
    staged_put_offers clear bulk
  refine ⟨?_, ?_, ?_⟩
  · intro number segments said
    cases number with
    | zero =>
      rcases client.course_cases (.put db key value) target peer readings with
        ⟨silent, -⟩ | ⟨staged, after, -, talked⟩
      · simp [silent] at said
      · simp [talked] at said
    | succ number =>
      obtain ⟨frame, read⟩ := read_of_course said
      have reached := (List.getElem?_eq_some_iff.mp said).1
      obtain ⟨regions, offers, told⟩ :=
        course_at Offers.answer? holds read (Nat.lt_of_succ_lt reached)
      obtain ⟨id, rfl, pulled⟩ := Regions.pull_of_reply? (told.symm.trans said)
      obtain ⟨held, found⟩ := Regions.find?_of_pull pulled
      obtain rfl := offers.only found
      exact ⟨Except.ok.inj (pulled.symm.trans offers.pull), number, rfl, read⟩
  · intro writable number read reached
    obtain ⟨regions, offers, told⟩ := course_at Offers.answer? holds read reached
    rw [told]
    simp [Regions.reply?, Regions.answer?, offers.pull, Option.filter_some, writable]
  · intro other apart
    refine course_denies _ Offers.answer? holds fun regions offers => ?_
    exact Regions.denies_pull fun held found => absurd (offers.only found) apart

/-- A call that has exposed a row returns a failure, or what it reads from the reply that has come
and from the contents with the confirmed writes. -/
theorem returned_of_row (contents : List (List Bytes)) {visit : Visit call}
    (used : call.misuse? = none) (few : contents.length ≤ 4)
    (rows : ∀ {staged after}, client.stage call = .ok (staged, after) →
      staged.regions = (Regions.grants first contents).map Grant.id ∧
        after.regions.Row first contents)
    (visited : client.call call target peer (.readings readings) = some visit) :
    let course := client.course call target peer readings
    (∃ error, visit.returned.outcome = .error error) ∨
      ∃ reply, readings[course.said.tail.length]? = some (.ok (.reply reply)) ∧
        call.readReply (Regions.written first readings course.said.tail contents) reply =
          .ok visit.returned := by
  intro course
  obtain ⟨cause, misused, -⟩ | ⟨staged, after, result, prepared, came, concluded⟩ :=
    call_eq_some visited
  · rw [used] at misused
    cases misused
  · obtain ⟨named, row⟩ := rows prepared
    have goes : course = after.exchange target staged.request peer (.readings readings) := by
      simp only [course, Client.course, prepared]
    rw [← goes] at came concluded
    cases result with
    | error error =>
      obtain same := Except.ok.inj (conclude_eq_ok concluded)
      exact .inl ⟨error, congrArg Returned.outcome same.symm⟩
    | ok reply =>
      right
      have replied : course.result = some (.ok reply) := by
        rcases came with replied | ⟨error, -, wrong⟩
        · exact replied
        · cases wrong
      rcases client.course_cases call target peer readings with
        ⟨-, unanswered⟩ | ⟨_, _, again, talked⟩
      · exact absurd replied (unanswered reply)
      · obtain ⟨rfl, rfl⟩ := Prod.mk.inj (Except.ok.inj (prepared.symm.trans again))
        have said : course.said.tail = (converse peer readings after.regions).said :=
          congrArg (·.said.tail) talked
        have regions : course.regions = (converse peer readings after.regions).regions :=
          (congrArg Exchange.regions talked).trans rfl
        have ended : (converse peer readings after.regions).result = some (.ok reply) :=
          (congrArg Exchange.result talked).symm.trans replied
        have written := row.converse (by omega) peer readings
        rw [← regions, ← said] at written
        obtain ⟨last, told, -⟩ := conclude_reply { after with regions := course.regions }
          (Regions.nodup_grants first (by simp; omega)) written.held_grants
          written.only_grants call reply
        rw [Regions.ids_grants, Regions.length_written, ← Regions.ids_grants, ← named,
          Regions.contents_grants, concluded] at told
        exact ⟨reply, said ▸ read_of_result ended, (Prod.mk.inj told).1.symm⟩

/-- The value that a get returns through its buffer: the buffer is zero but for the confirmed
writes, and the reply says how much of it is the value. -/
theorem get_pushed (clear : client.regions.ids = []) {db : DatabaseId} {key : Bytes} {maxSize : Nat}
    (bulk : TransferMode.select key.length maxSize client.settings.maxInline = .bulk)
    {visit : Visit (.get db key maxSize)} {value : Bytes}
    (visited : client.call (.get db key maxSize) target peer (.readings readings) = some visit)
    (returned : visit.returned.outcome = .ok (some value)) :
    let course := client.course (.get db key maxSize) target peer readings
    value.length ≤ maxSize ∧ ∃ buffer size,
      (course.confirmed readings (UInt64.ofNat client.regions.next)).foldl Region.applyWrite
        [Bytes.zeros maxSize] = [buffer] ∧
      readings[course.said.tail.length]? = some (.ok (.reply (.bulkGot .ok size))) ∧
      value = buffer.take size.toNat := by
  intro course
  have told := returned_of_row [[Bytes.zeros maxSize]] rfl (by simp)
    (fun prepared => ⟨(staged_get clear bulk prepared).1, (staged_get clear bulk prepared).2.row⟩)
    visited
  rcases told with ⟨error, failed⟩ | ⟨reply, came, read⟩
  · rw [failed] at returned
    cases returned
  · have width := Region.lengths_foldl_applyWrite [Bytes.zeros maxSize]
      (course.confirmed readings (UInt64.ofNat client.regions.next))
    obtain ⟨buffer, single⟩ : ∃ buffer, (course.confirmed readings
        (UInt64.ofNat client.regions.next)).foldl Region.applyWrite [Bytes.zeros maxSize] =
          [buffer] :=
      List.length_eq_one_iff.mp (by simpa using congrArg List.length width)
    have written : Regions.written client.regions.next readings course.said.tail
        [[Bytes.zeros maxSize]] = [[buffer]] := congrArg (fun segments => [segments]) single
    rw [single] at width
    rw [written] at read
    obtain ⟨size, rfl, within, rfl⟩ := Call.value_of_readReply read returned
    have fits : buffer.length = maxSize := by simpa using width
    exact ⟨by rw [List.length_take]; omega, buffer, size, single, came, rfl⟩

theorem length_room (writes : List SegmentWrite) (size : Nat) :
    (writes.foldl Region.applyWrite [Bytes.zeros size]).flatten.length = size := by
  rw [List.length_flatten, Region.lengths_foldl_applyWrite]
  simp

/-- What a listing of keys fills its slots with has been pushed. -/
theorem keys_pushed (clear : client.regions.ids = []) {db : DatabaseId} {start stem : Bytes}
    {slots : List Bytes} {visit : Visit (.listKeys db start stem slots)} {count : Nat}
    (visited : client.call (.listKeys db start stem slots) target peer (.readings readings) =
      some visit)
    (returned : visit.returned.outcome = .ok count) :
    let course := client.course (.listKeys db start stem slots) target peer readings
    count ≤ slots.length ∧ Slots.Leading count
      ((course.confirmed readings (UInt64.ofNat client.regions.next)).foldl Region.applyWrite
        (blanks slots)) slots visit.returned.slots.keys := by
  intro course
  have told := returned_of_row
    [blanks slots, [Bytes.zeros (slots.length * lengthWidth)]] rfl (by simp)
    (fun prepared => ⟨congrArg Staged.regions (staged_listKeys clear prepared).1,
      (staged_listKeys clear prepared).2.row⟩) visited
  rcases told with ⟨error, failed⟩ | ⟨reply, -, read⟩
  · rw [failed] at returned
    cases returned
  · obtain ⟨⟨outcome, filled⟩, listed, same⟩ := bind_eq_ok_iff.mp read
    rw [← Except.ok.inj same] at returned ⊢
    obtain rfl : outcome = .ok count := returned
    obtain ⟨few, leading, -⟩ := Slots.leading_of_readListing listed
      (Nat.le_of_eq (length_room _ _).symm)
    exact ⟨few, leading⟩

/-- What a listing of keys with their values fills its slots with has been pushed. -/
theorem pairs_pushed (clear : client.regions.ids = []) {db : DatabaseId} {start stem : Bytes}
    {slots valueSlots : List Bytes} {visit : Visit (.listPairs db start stem slots valueSlots)}
    {count : Nat}
    (visited : client.call (.listPairs db start stem slots valueSlots) target peer
      (.readings readings) = some visit)
    (returned : visit.returned.outcome = .ok count) :
    let course := client.course (.listPairs db start stem slots valueSlots) target peer readings
    count ≤ slots.length ∧ count ≤ valueSlots.length ∧
      Slots.Leading count
        ((course.confirmed readings (UInt64.ofNat client.regions.next)).foldl Region.applyWrite
          (blanks slots)) slots visit.returned.slots.keys ∧
      Slots.Leading count
        ((course.confirmed readings (UInt64.ofNat (client.regions.next + 2))).foldl
          Region.applyWrite (blanks valueSlots)) valueSlots visit.returned.slots.values := by
  intro course
  cases used : (Call.listPairs db start stem slots valueSlots).misuse? with
  | some cause =>
    simp only [Client.call, fate, used] at visited
    obtain rfl := Option.some.inj visited
    cases returned
  | none =>
    have paired : slots.length = valueSlots.length := by
      by_contra apart
      simp [Call.misuse?, apart] at used
    have told := returned_of_row
      [blanks slots, [Bytes.zeros (slots.length * lengthWidth)],
        blanks valueSlots, [Bytes.zeros (valueSlots.length * lengthWidth)]] used (by simp)
      (fun prepared => ⟨congrArg Staged.regions (staged_listPairs clear prepared).1,
        (staged_listPairs clear prepared).2.row⟩) visited
    rcases told with ⟨error, failed⟩ | ⟨reply, -, read⟩
    · rw [failed] at returned
      cases returned
    · obtain ⟨⟨outcome, filled⟩, listed, same⟩ := bind_eq_ok_iff.mp read
      rw [← Except.ok.inj same] at returned ⊢
      obtain rfl : outcome = .ok count := returned
      obtain ⟨few, leading, values⟩ := Slots.leading_of_readListing listed
        (Nat.le_of_eq (length_room _ _).symm)
      exact ⟨few, paired ▸ few, leading, values paired (Nat.le_of_eq (length_room _ _).symm)⟩

/-- Whatever the other side does during a call of a client that has nothing else exposed, it learns
the value of a put that it is to fetch and nothing else, it writes into what the call has exposed
for that and into nothing else, and what buffers were used for before is of no account. -/
theorem peer_reaches_only_grants (client : Client) (alone : client.regions.live = [])
    (target : UInt8) (peer : String) (readings : List Reading) :
    let own := UInt64.ofNat client.regions.next
    let mode (key : Bytes) (size : Nat) :=
      TransferMode.select key.length size client.settings.maxInline
    let course (call : Call) := client.course call target peer readings
    let visits (call : Call) (visit : Visit call) :=
      client.call call target peer (.readings readings) = some visit
    (∀ call, (∀ db key value, call = .put db key value → mode key value.length = .inside) →
      ∀ region, (course call).Denies readings (.bulkPull region)) ∧
    (∀ db key value, mode key value.length = .bulk →
      (course (.put db key value)).Serves readings own [value]) ∧
    (∀ db key value region writes,
      (course (.put db key value)).Denies readings (.bulkPush region writes)) ∧
    (∀ db key maxSize visit value, mode key maxSize = .bulk → visits (.get db key maxSize) visit →
      visit.returned.outcome = .ok (some value) →
      let course := course (.get db key maxSize)
      value.length ≤ maxSize ∧ ∃ buffer size,
        (course.confirmed readings own).foldl Region.applyWrite [Bytes.zeros maxSize] = [buffer] ∧
        readings[course.said.tail.length]? = some (.ok (.reply (.bulkGot .ok size))) ∧
        value = buffer.take size.toNat) ∧
    (∀ db start stem slots visit count, visits (.listKeys db start stem slots) visit →
      visit.returned.outcome = .ok count →
      let course := course (.listKeys db start stem slots)
      count ≤ slots.length ∧ Slots.Leading count
        ((course.confirmed readings own).foldl Region.applyWrite (blanks slots)) slots
        visit.returned.slots.keys) ∧
    (∀ db start stem slots valueSlots visit count,
      visits (.listPairs db start stem slots valueSlots) visit →
      visit.returned.outcome = .ok count →
      let course := course (.listPairs db start stem slots valueSlots)
      count ≤ slots.length ∧ count ≤ valueSlots.length ∧
        Slots.Leading count
          ((course.confirmed readings own).foldl Region.applyWrite (blanks slots)) slots
          visit.returned.slots.keys ∧
        Slots.Leading count
          ((course.confirmed readings (UInt64.ofNat (client.regions.next + 2))).foldl
            Region.applyWrite (blanks valueSlots)) valueSlots visit.returned.slots.values) ∧
    ∀ pool call,
      let other : Client := { client with pool }
      (other.course call target peer readings).said = (course call).said ∧
        (other.fate call target peer (.readings readings)).map Visit.returned (fun _ => ()) =
          (client.fate call target peer (.readings readings)).map Visit.returned fun _ => () := by
  have clear : client.regions.ids = [] := List.map_eq_nil_iff.mpr alone
  intro own mode course visits
  refine ⟨fun call fetched region => ?_, fun db key value => put_serves clear,
    fun db key value => put_denies clear db key value,
    fun db key maxSize visit value bulk visited => get_pushed clear bulk visited,
    fun db start stem slots visit count visited => keys_pushed clear visited,
    fun db start stem slots valueSlots visit count visited => pairs_pushed clear visited,
    fun pool call => ?_⟩
  · exact denies_of_row (stage_row clear fetched) region
  · obtain ⟨said, returned⟩ := pools_hidden client pool call target peer
    exact ⟨said readings, returned (.readings readings)⟩

/-- A client whose pools hold a buffer that was used before. -/
def reused : Client where
  settings := { maxInline := 0 }
  pool := some { classes := [⟨4, [⟨4, [9, 9, 9, 9]⟩]⟩], room := 1 }

theorem peer_reaches_only_grants_reused :
    let readings : List Reading :=
      [.ok (.bulkPull 1), .ok (.bulkPush 1 [⟨0, [7]⟩]), .ok (.bulkPush 1 [⟨0, [8]⟩, ⟨1, [8]⟩]),
        .ok (.reply (.bulkGot .ok 3))]
    let call : Call := .get ⟨1⟩ [5] 4
    reused.regions.live = [] ∧
      (∃ reason, (reused.course call 0 "" readings).said[1]? = some (.bulkDenied reason)) ∧
      (reused.course call 0 "" readings).confirmed readings 1 = [⟨0, [7]⟩] ∧
      ∃ visit, reused.call call 0 "" (.readings readings) = some visit ∧
        visit.returned.outcome = .ok (some [7, 0, 0]) ∧ [7, 0, 0].length ≤ 4 := by
  intro readings call
  obtain ⟨denies, -, -, gets, -⟩ := peer_reaches_only_grants reused rfl 0 "" readings
  refine ⟨rfl, denies call nofun 1 0 rfl (by decide +kernel), by decide +kernel, ?_⟩
  obtain ⟨visit, visited⟩ : ∃ visit, reused.call call 0 "" (.readings readings) = some visit :=
    Option.isSome_iff_exists.mp (by decide +kernel)
  have told : (reused.call call 0 "" (.readings readings)).map
      (fun visit => visit.returned.outcome) = some (.ok (some [7, 0, 0])) := by decide +kernel
  rw [visited] at told
  have returned : visit.returned.outcome = .ok (some [7, 0, 0]) := Option.some.inj told
  exact ⟨visit, visited, returned, (gets _ _ _ visit _ (by decide +kernel) visited returned).1⟩

end Client

end KeyDepot
