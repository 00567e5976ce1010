import KeyDepot.Client.Conversation
import KeyDepot.Proofs.FrameReading
import KeyDepot.Proofs.RegionRow
import KeyDepot.Proofs.RegionWrites
import Mathlib.Data.Nat.Digits.Defs

namespace KeyDepot

namespace Frame

theorem utf8ByteSize_ofList_le (chars : List Char) :
    (String.ofList chars).utf8ByteSize ≤ 4 * chars.length := by
  induction chars with
  | nil => simp
  | cons first rest ih =>
    have width := first.utf8Size_le_four
    rw [String.ofList_cons, String.utf8ByteSize_append, String.utf8ByteSize_singleton,
      List.length_cons]
    omega

theorem utf8ByteSize_number_le (number : UInt64) : (toString number).utf8ByteSize ≤ 80 := by
  have digits : (Nat.toDigits 10 number.toNat).length ≤ 20 :=
    (Nat.length_toDigits_le_iff (by decide) (by decide)).mpr
      (Nat.lt_trans number.toNat_lt (by decide))
  have bytes : (toString number).utf8ByteSize ≤ 4 * (Nat.toDigits 10 number.toNat).length :=
    utf8ByteSize_ofList_le _
  omega

/-- A denial that names a region and says a few words can always be sent. -/
theorem denial_writable (region : UInt64) (words : String) (short : words.utf8ByteSize ≤ 30) :
    (bulkDenied ("Invalid argument: " ++ ("region " ++ toString region ++ words))).Writable := by
  have number := utf8ByteSize_number_le region
  have front : "Invalid argument: ".utf8ByteSize = 18 := rfl
  have name : "region ".utf8ByteSize = 7 := rfl
  have limit : 1000 ≤ maxPayload := by decide
  change 8 + String.utf8ByteSize _ ≤ _
  simp only [String.utf8ByteSize_append, front, name]
  omega

end Frame

namespace Regions

variable {regions after : Regions} {id : UInt64}

/-- A pull of a region that must not be read is denied, and the denial can be sent. -/
theorem denies_pull
    (closed : ∀ region, regions.find? id = some region → region.access.readable = false) :
    ∃ reason, regions.answer? (.bulkPull id) = some (.bulkDenied reason, regions) ∧
      (Frame.bulkDenied reason).Writable := by
  cases found : regions.find? id with
  | none =>
    refine ⟨_, by simp only [answer?, pull, found]; rfl, ?_⟩
    exact Frame.denial_writable id " is not exposed" (by decide)
  | some region =>
    refine ⟨_, by simp only [answer?, pull, found, closed region found]; rfl, ?_⟩
    exact Frame.denial_writable id " does not allow pulls" (by decide)

/-- A push to a region that must not be written is denied, and the denial can be sent. -/
theorem denies_push
    (closed : ∀ region, regions.find? id = some region → region.access.writable = false)
    (writes : List SegmentWrite) :
    ∃ reason, regions.answer? (.bulkPush id writes) = some (.bulkDenied reason, regions) ∧
      (Frame.bulkDenied reason).Writable := by
  cases found : regions.find? id with
  | none =>
    refine ⟨_, by simp only [answer?, push, found]; rfl, ?_⟩
    exact Frame.denial_writable id " is not exposed" (by decide)
  | some region =>
    refine ⟨_, by simp only [answer?, push, found, closed region found]; rfl, ?_⟩
    exact Frame.denial_writable id " does not allow pushes" (by decide)

/-- The writes to a region in a frame, when they are confirmed. -/
def confirms (region : UInt64) : Reading × Frame → List SegmentWrite
  | (.ok (.bulkPush id writes), .bulkAck) => if id = region then writes else []
  | _ => []

theorem answer?_eq_some {frame answer : Frame}
    (answered : regions.answer? frame = some (answer, after)) :
    (after = regions ∧ ∀ region, confirms region (.ok frame, answer) = []) ∨
      ∃ id writes, frame = .bulkPush id writes ∧ answer = .bulkAck ∧
        regions.push id writes = .ok after := by
  cases frame with
  | bulkPull region =>
    simp only [answer?] at answered
    split at answered <;> obtain ⟨rfl, rfl⟩ := Prod.mk.inj (Option.some.inj answered) <;>
      exact .inl ⟨rfl, fun _ => rfl⟩
  | bulkPush region writes =>
    simp only [answer?] at answered
    split at answered <;> obtain ⟨rfl, rfl⟩ := Prod.mk.inj (Option.some.inj answered)
    · rename_i pushed
      exact .inr ⟨region, writes, rfl, rfl, pushed⟩
    · exact .inl ⟨rfl, fun _ => rfl⟩
  | _ => cases answered

/-- What a caller may say to a frame, when that can be said. -/
def reply? (frame : Frame) (regions : Regions) : Option Frame :=
  ((regions.answer? frame).map Prod.fst).filter fun answer => decide answer.Writable

/-- How a caller reacts: it answers and goes on, or the call is over and nothing has changed. -/
theorem react_cases (peer : String) (reading : Reading) (regions : Regions) :
    (∃ frame answer after, reading = .ok frame ∧ regions.answer? frame = some (answer, after) ∧
      answer.Writable ∧ regions.react peer reading = (.answer answer answer.form, after)) ∨
    ∃ result, regions.react peer reading = (.finish result, regions) ∧
      (∀ frame, reading = .ok frame → regions.reply? frame = none) ∧
      ∀ reply, result = .ok reply → reading = .ok (.reply reply) := by
  cases reading with
  | error error =>
    right
    obtain ⟨shown, reacted⟩ :
        ∃ shown, regions.react peer (.error error) = (.finish (.error shown), regions) := by
      cases error <;> exact ⟨_, rfl⟩
    refine ⟨.error shown, reacted, ?_, ?_⟩
    · rintro _ ⟨⟩
    · rintro _ ⟨⟩
  | ok frame =>
    cases answered : regions.answer? frame with
    | none =>
      right
      cases frame with
      | reply reply =>
        refine ⟨.ok reply, rfl, ?_, ?_⟩
        · rintro _ ⟨⟩
          rfl
        · rintro _ ⟨⟩
          rfl
      | _ =>
        refine ⟨.error _, by simp only [react, answered]; rfl, ?_, ?_⟩
        · rintro _ ⟨⟩
          simp only [reply?, answered, Option.map_none, Option.filter_none]
        · rintro _ ⟨⟩
    | some pair =>
      obtain ⟨answer, after⟩ := pair
      have reacted : regions.react peer (.ok frame) = (.say answer, after) := by
        cases frame with
        | reply reply => cases answered
        | _ => simp only [react, answered]
      by_cases writable : answer.Writable
      · left
        refine ⟨frame, answer, after, rfl, answered, writable, ?_⟩
        rw [reacted, Reaction.say, Frame.encode_of_writable writable]
      · right
        -- A confirmation carries nothing, so it can always be said.
        have same : after = regions := by
          rcases answer?_eq_some answered with ⟨same, -⟩ | ⟨_, _, -, rfl, -⟩
          · exact same
          · exact absurd (by decide) writable
        refine ⟨.error (.protocol (.payloadTooLarge answer.payloadSize)), ?_, ?_, ?_⟩
        · rw [reacted, Reaction.say, Frame.encode_of_not_writable writable, same]
        · rintro _ ⟨⟩
          simp [reply?, answered, Option.filter_some, writable]
        · rintro _ ⟨⟩

end Regions

section Conversation

variable {peer : String} {readings : List Reading} {regions : Regions}

/-- Each reading that a conversation comes to is answered by what the regions are then. -/
theorem converse_at {kept : Regions → Prop}
    (stays : ∀ {regions frame answer after}, kept regions →
      Regions.answer? frame regions = some (answer, after) → kept after)
    (holds : kept regions) {number : Nat} {frame : Frame}
    (read : readings[number]? = some (.ok frame))
    (reached : number ≤ (converse peer readings regions).said.length) :
    ∃ between, kept between ∧
      (converse peer readings regions).said[number]? = between.reply? frame := by
  induction readings generalizing regions number with
  | nil => simp at read
  | cons reading rest ih =>
    rcases Regions.react_cases peer reading regions with
      ⟨asked, answer, after, rfl, answered, writable, reacted⟩ | ⟨result, reacted, silent, -⟩
    · simp only [converse, reacted] at reached ⊢
      cases number with
      | zero =>
        obtain rfl := Except.ok.inj (Option.some.inj read)
        exact ⟨regions, holds, by simp [Regions.reply?, answered, Option.filter_some, writable]⟩
      | succ number =>
        exact ih (stays holds answered) read (Nat.le_of_succ_le_succ reached)
    · simp only [converse, reacted] at reached ⊢
      obtain rfl := Nat.le_zero.mp reached
      obtain rfl := Option.some.inj read
      exact ⟨regions, holds, (silent frame rfl).symm⟩

theorem read_of_said {number : Nat} {answer : Frame}
    (said : (converse peer readings regions).said[number]? = some answer) :
    ∃ frame, readings[number]? = some (.ok frame) := by
  induction readings generalizing regions number with
  | nil => simp [converse] at said
  | cons reading rest ih =>
    rcases Regions.react_cases peer reading regions with
      ⟨asked, answer, after, rfl, -, -, reacted⟩ | ⟨result, reacted, -, -⟩
    · cases number with
      | zero => exact ⟨asked, rfl⟩
      | succ number =>
        simp only [converse, reacted] at said
        exact ih said
    · simp [converse, reacted] at said

/-- A conversation that comes to a reply has read it after all it has answered. -/
theorem read_of_result {reply : Reply}
    (replied : (converse peer readings regions).result = some (.ok reply)) :
    readings[(converse peer readings regions).said.length]? = some (.ok (.reply reply)) := by
  induction readings generalizing regions with
  | nil => simp [converse] at replied
  | cons reading rest ih =>
    rcases Regions.react_cases peer reading regions with
      ⟨asked, answer, after, -, -, -, reacted⟩ | ⟨result, reacted, -, came⟩
    · simp only [converse, reacted] at replied ⊢
      simpa using ih replied
    · simp only [converse, reacted] at replied ⊢
      rw [came reply (Option.some.inj replied)]
      rfl

namespace Regions

/-- The writes to a region that were confirmed, in order. -/
def confirmed (region : UInt64) (readings : List Reading) (answers : List Frame) :
    List SegmentWrite :=
  (readings.zip answers).flatMap (confirms region)

/-- The contents of the regions of a row, numbered on from `first`, with the confirmed writes. -/
def written (first : Nat) (readings : List Reading) (answers : List Frame)
    (contents : List (List Bytes)) : List (List Bytes) :=
  contents.mapIdx fun place segments =>
    (confirmed (UInt64.ofNat (first + place)) readings answers).foldl Region.applyWrite segments

variable {first : Nat} {contents : List (List Bytes)}

@[simp] theorem length_written (answers : List Frame) :
    (written first readings answers contents).length = contents.length := by
  simp [written]

theorem getElem?_written (answers : List Frame) (place : Nat) :
    (written first readings answers contents)[place]? = contents[place]?.map
      ((confirmed (UInt64.ofNat (first + place)) readings answers).foldl Region.applyWrite) := by
  simp [written]

theorem written_nil : written first readings [] contents = contents := by
  apply List.ext_getElem?
  intro place
  simp [getElem?_written, confirmed]

theorem Row.pushed (row : regions.Row first contents) (few : contents.length ≤ 2 ^ 64)
    {id : UInt64} {writes : List SegmentWrite} {after : Regions}
    (pushed : regions.push id writes = .ok after) :
    ∃ place segments, contents[place]? = some segments ∧ id = UInt64.ofNat (first + place) ∧
      after.Row first (contents.set place (writes.foldl Region.applyWrite segments)) := by
  obtain ⟨region, found, -, fits, -⟩ := push_eq_ok pushed
  have live : id ∈ regions.ids :=
    List.mem_map.mpr ⟨region, List.mem_of_find?_eq_some found, id_of_find? found⟩
  obtain ⟨place, within, rfl⟩ := row.only id live
  obtain ⟨held, looked, -, same⟩ := row.held place _ (List.getElem?_eq_getElem within)
  obtain rfl := Option.some.inj (found.symm.trans looked)
  rw [same] at fits
  obtain ⟨other, again, kept⟩ := row.push few (List.getElem?_eq_getElem within) fits
  obtain rfl := Except.ok.inj (pushed.symm.trans again)
  exact ⟨place, contents[place], List.getElem?_eq_getElem within, rfl, kept⟩

/-- The regions of a row come to their contents with the confirmed writes, and nothing else changes
in them. -/
theorem Row.converse (row : regions.Row first contents) (few : contents.length ≤ 2 ^ 64)
    (peer : String) (readings : List Reading) :
    (converse peer readings regions).regions.Row first
      (written first readings (KeyDepot.converse peer readings regions).said contents) := by
  induction readings generalizing regions contents with
  | nil =>
    rw [KeyDepot.converse, written_nil]
    exact row
  | cons reading rest ih =>
    rcases react_cases peer reading regions with
      ⟨asked, answer, after, rfl, answered, -, reacted⟩ | ⟨result, reacted, -, -⟩
    · simp only [KeyDepot.converse, reacted]
      rcases answer?_eq_some answered with ⟨rfl, none⟩ | ⟨id, writes, rfl, rfl, pushed⟩
      · have same : ∀ later, written first (.ok asked :: rest) (answer :: later) contents =
            written first rest later contents := by
          intro later
          simp [written, confirmed, none]
        rw [same]
        exact ih row few
      · obtain ⟨place, segments, there, rfl, kept⟩ := row.pushed few pushed
        have moved : ∀ later,
            written first (.ok (.bulkPush (UInt64.ofNat (first + place)) writes) :: rest)
                (.bulkAck :: later) contents =
              written first rest later
                (contents.set place (writes.foldl Region.applyWrite segments)) := by
          intro later
          apply List.ext_getElem?
          intro other
          obtain ⟨within, -⟩ := List.getElem?_eq_some_iff.mp there
          rw [getElem?_written, getElem?_written]
          simp only [confirmed, List.zip_cons_cons, List.flatMap_cons, confirms]
          by_cases same : place = other
          · subst same
            simp [there, List.getElem?_set_self within, List.foldl_append]
          · rw [List.getElem?_set_ne same]
            rcases Nat.lt_or_ge other contents.length with inside | beyond
            · rw [if_neg (number_ne first same (by omega) (by omega)), List.nil_append]
            · simp [List.getElem?_eq_none beyond]
        rw [moved]
        exact ih kept (by simpa using few)
    · simp only [KeyDepot.converse, reacted]
      rw [written_nil]
      exact row

end Regions

end Conversation

namespace Client

/-- The course of a call, when there is a way to the other side. Nothing is said of a call that has
no buffers to be sent with. -/
def course (call : Call) (target : UInt8) (peer : String) (readings : List Reading)
    (client : Client) : Exchange :=
  match client.stage call with
  | .ok (staged, client) => client.exchange target staged.request peer (.readings readings)
  | .error _ => ⟨none, client.regions, [], []⟩

/-- Either nothing is said and no reply comes, or the request is said first and the conversation
follows. -/
theorem course_cases (client : Client) (call : Call) (target : UInt8) (peer : String)
    (readings : List Reading) :
    ((client.course call target peer readings).said = [] ∧
      ∀ reply, (client.course call target peer readings).result ≠ some (.ok reply)) ∨
    ∃ staged after, client.stage call = .ok (staged, after) ∧
      client.course call target peer readings =
        { converse peer readings after.regions with
          said := .request target staged.request ::
            (converse peer readings after.regions).said } := by
  simp only [course]
  split
  · rename_i staged after prepared
    simp only [exchange]
    split
    · exact .inl ⟨rfl, nofun⟩
    · exact .inr ⟨staged, after, prepared, rfl⟩
  · exact .inl ⟨rfl, nofun⟩

/-- What a call returns is read from its regions as they are when it ends. -/
theorem conclude_eq_ok {client after : Client} {call : Call} {regions : List UInt64}
    {result : Except Error Reply} {returned : Returned call}
    (concluded : client.conclude call regions result = (.ok returned, after)) :
    call.conclude ((client.withdraw regions).1.map (List.map Buffer.bytes)) result =
      .ok returned := by
  simp only [conclude] at concluded
  split at concluded
  · cases concluded
  · rename_i told read
    obtain rfl := Except.ok.inj (Prod.mk.inj concluded).1
    exact read

/-- How a call that has returned came to its end: it was refused, or it was concluded with a reply
or a failure of its exchange, or with the silence after it. -/
theorem call_eq_some {client : Client} {call : Call} {target : UInt8} {peer : String}
    {encounter : Encounter} {visit : Visit call}
    (visited : client.call call target peer encounter = some visit) :
    (∃ cause, call.misuse? = some cause ∧
      visit.returned = ⟨.error (.invalidArgument cause), call.slots⟩) ∨
    ∃ staged prepared result, client.stage call = .ok (staged, prepared) ∧
      let course := prepared.exchange target staged.request peer encounter
      (course.result = some result ∨
        ∃ error, prepared.silence? peer = some error ∧ result = .error error) ∧
      { prepared with regions := course.regions }.conclude call staged.regions result =
        (.ok visit.returned, visit.client) := by
  have fares := Fate.returned?_eq_some.mp visited
  simp only [fate] at fares
  split at fares
  · rename_i cause misused
    obtain rfl := Fate.returned.inj fares
    exact .inl ⟨cause, misused, rfl⟩
  · right
    split at fares
    · cases fares
    · rename_i staged prepared made
      split at fares
      · cases fares
      · rename_i result came
        rw [Option.orElse_eq_orElse, Option.orElse_eq_or, Option.or_eq_some_iff] at came
        refine ⟨staged, prepared, result, made, ?_, ?_⟩
        · rcases came with told | ⟨-, silent⟩
          · exact .inl told
          · obtain ⟨error, waited, same⟩ := Option.map_eq_some_iff.mp silent
            exact .inr ⟨error, waited, same.symm⟩
        · split at fares
          · cases fares
          · rename_i concluded
            obtain rfl := Fate.returned.inj fares
            exact concluded

end Client

end KeyDepot
