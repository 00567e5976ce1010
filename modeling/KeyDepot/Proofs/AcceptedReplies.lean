import KeyDepot.Proofs.FittingReplies
import KeyDepot.Proofs.RestingLines

/-! How a client takes the replies of a server. A reply that fits its call is never taken for one
that does not match it, or that claims more bytes than the buffer of the call has. -/

namespace KeyDepot

variable {σ : Type}

/-- Whether a failure lays the blame on the reply: it does not match the call, or it claims more
bytes than its buffer has. -/
def Error.blamesReply : Error → Bool
  | .protocol (.replyMismatch _) | .protocol (.replyOverrun ..) => true
  | _ => false

theorem Error.Misread.blameless {error : Error} (misread : error.Misread) :
    error.blamesReply = false := by
  cases misread <;> rfl

theorem Reading.Possible.blameless {error : Error} (possible : Reading.Possible (.error error)) :
    error.blamesReply = false := by
  rcases possible with ⟨received, taken, found, failed⟩ | ⟨fault, same⟩
  · exact (takeFrame?_misread found failed).blameless
  · obtain rfl := Except.error.inj same
    rfl

namespace Regions

/-- The lengths of the segments of a region. -/
def lengths? (id : UInt64) (regions : Regions) : Option (List Nat) :=
  (regions.find? id).map fun region => region.contents.map List.length

variable {regions after : Regions}

theorem Holds.lengths? {id : UInt64} {access : Access} {contents : List Bytes}
    (holds : regions.Holds id access contents) :
    regions.lengths? id = some (contents.map List.length) := by
  obtain ⟨region, found, -, rfl⟩ := holds
  rw [Regions.lengths?, found]
  rfl

theorem lengths?_push {pushed : UInt64} {writes : List SegmentWrite}
    (applied : regions.push pushed writes = .ok after) (id : UInt64) :
    after.lengths? id = regions.lengths? id := by
  have overwrites := overwrites_of_push applied
  by_cases same : id = pushed
  · subst same
    obtain ⟨region, now, found, written, -, lengths, -⟩ := overwrites.written
    simp only [lengths?, found, written, Option.map_some, lengths]
  · rw [lengths?, lengths?, overwrites.others id same]

theorem lengths?_react (peer : String) (reading : Reading) (regions : Regions) (id : UInt64) :
    (regions.react peer reading).2.lengths? id = regions.lengths? id := by
  rcases regions.react_cases peer reading with
    ⟨frame, answer, after, -, answered, -, reacted⟩ | ⟨result, reacted, -, -⟩
  · rw [reacted]
    rcases answer?_eq_some answered with ⟨rfl, -⟩ | ⟨pushed, writes, -, -, applied⟩
    · rfl
    · exact lengths?_push applied id
  · rw [reacted]

/-- A call that is over with a reaction blames no reply: none was read to a conclusion yet. -/
theorem react_blameless {peer : String} {reading : Reading}
    (possible : ∀ error, reading = .error error → error.blamesReply = false) {error : Error}
    (failed : (regions.react peer reading).1 = .finish (.error error)) :
    error.blamesReply = false := by
  cases reading with
  | error fault =>
    have read := possible fault rfl
    cases fault with
    | stream fault =>
      obtain rfl := Except.error.inj (Reaction.finish.inj failed)
      rfl
    | _ =>
      obtain rfl := Except.error.inj (Reaction.finish.inj failed)
      exact read
  | ok frame =>
    cases frame with
    | reply reply => cases failed
    | _ =>
      simp only [react] at failed
      split at failed
      · rename_i answer after answered
        by_cases writable : answer.Writable
        · simp [Reaction.say, Frame.encode_of_writable writable] at failed
        · simp only [Reaction.say, Frame.encode_of_not_writable writable, Reaction.finish.injEq,
            Except.error.injEq] at failed
          subst failed
          rfl
      · obtain rfl := Except.error.inj (Reaction.finish.inj failed)
        rfl

end Regions

/-- What became of a call before its reply is read: it has not failed for a reply, and the regions
that were exposed have the lengths they had. -/
structure Unblamed (regions : Regions) (result : Option (Except Error Reply)) (after : Regions) :
    Prop where
  blameless : ∀ error, result = some (.error error) → error.blamesReply = false
  lengths : ∀ id, after.lengths? id = regions.lengths? id

theorem Unblamed.untouched {regions : Regions} {result : Option (Except Error Reply)}
    (blameless : ∀ error, result = some (.error error) → error.blamesReply = false) :
    Unblamed regions result regions :=
  ⟨blameless, fun _ => rfl⟩

theorem Unblamed.unfinished (regions : Regions) : Unblamed regions none regions :=
  .untouched fun _ failed => by cases failed

theorem converse_unblamed (peer : String) {readings : List Reading}
    (blameless : ∀ error, .error error ∈ readings → Error.blamesReply error = false)
    (regions : Regions) :
    Unblamed regions (converse peer readings regions).result
      (converse peer readings regions).regions := by
  induction readings generalizing regions with
  | nil => exact .unfinished regions
  | cons reading rest ih =>
    have same := Regions.lengths?_react peer reading regions
    simp only [converse]
    split
    · rename_i result after reacted
      rw [reacted] at same
      refine ⟨?_, same⟩
      rintro error ⟨⟩
      have read : ∀ fault, reading = .error fault → fault.blamesReply = false := by
        rintro fault rfl
        exact blameless fault (List.mem_cons_self ..)
      exact Regions.react_blameless read (congrArg Prod.fst reacted)
    · rename_i frame bytes after reacted
      rw [reacted] at same
      have later := ih (fun error member => blameless error (.tail _ member)) after
      exact ⟨later.blameless, fun id => (later.lengths id).trans (same id)⟩

/-- The reply that is read with a reading. -/
def Reading.reply? : Reading → Option Reply
  | .ok frame => frame.reply?
  | .error _ => none

theorem converse_reply {peer : String} {readings : List Reading} {regions : Regions}
    {reply : Reply} (replied : (converse peer readings regions).result = some (.ok reply)) :
    readings.findSome? Reading.reply? = some reply := by
  induction readings generalizing regions with
  | nil => cases replied
  | cons reading rest ih =>
    rcases regions.react_cases peer reading with
      ⟨frame, answer, after, rfl, answered, -, reacted⟩ | ⟨result, reacted, -, only⟩
    · have asks : frame.reply? = none := by
        cases frame with
        | reply other => cases answered
        | _ => rfl
      simp only [converse, reacted] at replied
      rw [List.findSome?_cons_of_isNone (by simp [Reading.reply?, asks])]
      exact ih replied
    · simp only [converse, reacted] at replied
      obtain rfl := Option.some.inj replied
      obtain rfl := only reply rfl
      rfl

theorem Line.possible_of_next? {line later : Line} {reading : Reading}
    (next : line.next? = some (reading, later)) : Reading.Possible reading := by
  simp only [Line.next?] at next
  split at next
  · rename_i taken found
    obtain ⟨rfl, -⟩ := Prod.mk.inj (Option.some.inj next)
    exact .inl ⟨_, taken, found, rfl⟩
  · split at next
    · obtain ⟨rfl, -⟩ := Prod.mk.inj (Option.some.inj next)
      exact .inr ⟨_, rfl⟩
    · cases next

namespace Client

theorem silence_blameless {peer : String} {client : Client} {error : Error}
    (silent : client.silence? peer = some error) : error.blamesReply = false := by
  simp only [silence?] at silent
  split at silent
  · cases silent
  · obtain rfl := Option.some.inj silent
    rfl

theorem exchange_unblamed (target : UInt8) (request : Request) (peer : String)
    {readings : List Reading}
    (blameless : ∀ error, .error error ∈ readings → Error.blamesReply error = false)
    (client : Client) :
    let course := client.exchange target request peer (.readings readings)
    Unblamed client.regions course.result course.regions := by
  simp only [exchange]
  split
  · rename_i error refused
    refine .untouched ?_
    rintro _ ⟨⟩
    by_cases writable : (Frame.request target request).Writable
    · rw [Frame.encode_of_writable writable] at refused
      cases refused
    · rw [Frame.encode_of_not_writable writable] at refused
      obtain rfl := Except.error.inj refused
      rfl
  · exact converse_unblamed peer blameless client.regions

theorem exchange_reply {target : UInt8} {request : Request} {peer : String}
    {readings : List Reading} {client : Client} {reply : Reply}
    (replied : (client.exchange target request peer (.readings readings)).result =
      some (.ok reply)) : readings.findSome? Reading.reply? = some reply := by
  simp only [exchange] at replied
  split at replied
  · cases replied
  · exact converse_reply replied

end Client

variable [Engine σ]

theorem Line.discuss_unblamed (peer : String) (patience : Nat) (regions : Regions) (line : Line)
    (server : Server σ) :
    Unblamed regions (line.discuss peer patience regions server).result
      (line.discuss peer patience regions server).regions := by
  induction patience generalizing regions line server with
  | zero => exact .unfinished regions
  | succ patience ih =>
    simp only [discuss]
    split
    · exact .unfinished regions
    · rename_i reading rest next
      have same := Regions.lengths?_react peer reading regions
      split
      · rename_i result after reacted
        rw [reacted] at same
        refine ⟨?_, same⟩
        rintro error ⟨⟩
        have read : ∀ fault, reading = .error fault → fault.blamesReply = false := by
          rintro fault rfl
          exact (possible_of_next? next).blameless
        exact Regions.react_blameless read (congrArg Prod.fst reacted)
      · rename_i frame bytes after reacted
        rw [reacted] at same
        have later := ih after (rest.send bytes server).1 (rest.send bytes server).2
        exact ⟨later.blameless, fun id => (later.lengths id).trans (same id)⟩

namespace Caller

omit [Engine σ] in
theorem client_of_checkout {caller rest : Caller} {network : Network} {active : Nat}
    {server : Server σ} {line : Line}
    (taken : caller.checkout network active server = .ok (line, rest)) :
    rest.client = caller.client := by
  simp only [checkout] at taken
  split at taken
  · obtain ⟨-, rfl⟩ := Prod.mk.inj (Except.ok.inj taken)
    rfl
  · split at taken
    · cases taken
    · split at taken
      · cases taken
      · obtain ⟨-, rfl⟩ := Prod.mk.inj (Except.ok.inj taken)
        rfl

theorem exchange_unblamed (network : Network) (active : Nat) (target : UInt8)
    (request : Request) (caller : Caller) (server : Server σ) :
    Unblamed caller.client.regions (caller.exchange network active target request server).1
      (caller.exchange network active target request server).2.1.client.regions := by
  simp only [exchange]
  split
  · refine .untouched ?_
    rintro _ ⟨⟩
    rfl
  · rename_i line rest taken
    rw [← client_of_checkout taken]
    by_cases writable : (Frame.request target request).Writable
    · simp only [Frame.encode_of_writable writable]
      have sent := Line.discuss_unblamed rest.peer
        (network.patience (line.send (Frame.request target request).form server).1.far.phase)
        rest.client.regions (line.send (Frame.request target request).form server).1
        (line.send (Frame.request target request).form server).2
      split
      · exact ⟨by rintro _ ⟨⟩, sent.lengths⟩
      · rename_i error failed
        refine ⟨?_, sent.lengths⟩
        rintro _ ⟨⟩
        exact sent.blameless error failed
      · refine ⟨?_, sent.lengths⟩
        intro error failed
        obtain ⟨cause, came, same⟩ := Option.map_eq_some_iff.mp failed
        obtain rfl := Except.error.inj same
        cases blamed : network.cause? rest.peer with
        | none =>
          rw [blamed] at came
          exact Client.silence_blameless came
        | some fault =>
          rw [blamed] at came
          obtain rfl := Option.some.inj came
          rfl
    · simp only [Frame.encode_of_not_writable writable]
      refine .untouched ?_
      rintro _ ⟨⟩
      rfl

end Caller

theorem Call.unexpected_blameless {reply : Reply} (told : reply.status ≠ .ok) :
    (unexpected reply).blamesReply = false := by
  simp only [unexpected]
  rfl

theorem Slots.fill_fault {index : Nat} {slots segments : List Bytes} {lengths : List Nat}
    {fault : Violation} (failed : (fill index slots segments lengths).2 = some fault) :
    ∃ item size, fault = .itemOverrun item size := by
  induction slots generalizing index segments lengths with
  | nil => cases failed
  | cons slot slots ih =>
    cases lengths with
    | nil => cases failed
    | cons length lengths =>
      simp only [fill] at failed
      split at failed
      · exact ⟨_, _, (Option.some.inj failed).symm⟩
      · exact ih failed

theorem Call.readListing_blameless {slots after : Slots}
    {keys keyLengths values valueLengths : List Bytes} {status : Status} {count : UInt64}
    {error : Error}
    (failed : readListing slots keys keyLengths values valueLengths (.listed status count) =
      .ok (.error error, after)) : error.blamesReply = false := by
  cases status with
  | ok =>
    have told := congrArg Prod.fst (Except.ok.inj failed)
    simp only at told
    split at told
    · rename_i fault faulty
      obtain rfl := Except.error.inj told
      obtain ⟨item, size, rfl⟩ : ∃ item size, fault = .itemOverrun item size := by
        split at faulty
        · rename_i found
          exact Option.some.inj faulty ▸ Slots.fill_fault found
        · exact Slots.fill_fault faulty
      rfl
    · cases told
  | truncated =>
    obtain ⟨_, -, failed⟩ := bind_eq_ok_iff.mp failed
    obtain ⟨_, -, same⟩ := bind_eq_ok_iff.mp failed
    cases same
    rfl
  | _ =>
    cases failed
    exact unexpected_blameless (by rintro ⟨⟩)

/-- The replies a call can make sense of: of its own shape, with the name's database when that was
found, and with no more bytes than its buffer has. -/
def Call.Expects (segments : List (List Bytes)) (reply : Reply) : Call → Prop
  | .openName _ => ∃ status db, reply = .opened status db ∧ (status = .ok → db.isSome = true)
  | .put .. | .erase .. => ∃ status, reply = .ack status
  | .get .. =>
    (segments = [] ∧ ∃ status value size, reply = .got status value size) ∨
      ∃ region others status size, segments = region :: others ∧ reply = .bulkGot status size ∧
        (status = .ok → size.toNat ≤ (region.headD []).length)
  | .length .. => ∃ status size, reply = .length status size
  | .listKeys .. | .listPairs .. => ∃ status count, reply = .listed status count

theorem Call.readReply_blameless {call : Call} {segments : List (List Bytes)} {reply : Reply}
    (expects : call.Expects segments reply) {returned : Returned call}
    (read : call.readReply segments reply = .ok returned) {error : Error}
    (failed : returned.outcome = .error error) : error.blamesReply = false := by
  have unexpected {other : Reply}
      (failed : Except.error (unexpected other) = (.error error : Except Error call.Answer))
      (told : other.status ≠ .ok) : error.blamesReply = false :=
    Except.error.inj failed ▸ unexpected_blameless told
  cases call with
  | openName name =>
    obtain ⟨status, db, rfl, found⟩ := expects
    obtain rfl := Except.ok.inj read
    cases status with
    | ok =>
      obtain ⟨id, rfl⟩ := Option.isSome_iff_exists.mp (found rfl)
      cases failed
    | _ => exact unexpected failed (by rintro ⟨⟩)
  | put db key value =>
    obtain ⟨status, rfl⟩ := expects
    obtain rfl := Except.ok.inj read
    cases status with
    | ok | policyViolation => cases failed
    | _ => exact unexpected failed (by rintro ⟨⟩)
  | erase db key =>
    obtain ⟨status, rfl⟩ := expects
    obtain rfl := Except.ok.inj read
    cases status with
    | ok | notFound => cases failed
    | _ => exact unexpected failed (by rintro ⟨⟩)
  | get db key maxSize =>
    obtain rfl := Except.ok.inj read
    rcases expects with
      ⟨rfl, status, value, size, rfl⟩ | ⟨region, others, status, size, rfl, rfl, fits⟩
    · cases status with
      | ok | notFound => cases failed
      | truncated =>
        cases failed
        rfl
      | _ => exact unexpected failed (by rintro ⟨⟩)
    · cases status with
      | ok =>
        simp only [fits rfl, if_true] at failed
        cases failed
      | notFound => cases failed
      | truncated =>
        cases failed
        rfl
      | _ => exact unexpected failed (by rintro ⟨⟩)
  | length db key =>
    obtain ⟨status, size, rfl⟩ := expects
    obtain rfl := Except.ok.inj read
    cases status with
    | ok | notFound => cases failed
    | _ => exact unexpected failed (by rintro ⟨⟩)
  | listKeys db start stem keys | listPairs db start stem keys values =>
    obtain ⟨status, count, rfl⟩ := expects
    obtain ⟨⟨outcome, slots⟩, listed, same⟩ := bind_eq_ok_iff.mp read
    obtain rfl := Except.ok.inj same
    obtain rfl : outcome = .error error := failed
    exact readListing_blameless listed

/-- The call may be sent as this request. -/
def Request.Suits : Request → Call → Prop
  | .openName _, .openName _ | .put .., .put .. | .bulkPut .., .put .. | .get .., .get ..
  | .bulkGet .., .get .. | .erase .., .erase .. | .length .., .length ..
  | .listKeys .., .listKeys .. | .listPairs .., .listPairs .. => True
  | _, _ => False

/-- What is expected of the reply to a call other than a get does not depend on its regions. -/
theorem Call.expects_of_suits {call : Call} {request : Request} (suits : request.Suits call)
    (other : ∀ db key maxSize, call ≠ .get db key maxSize) {target : UInt8} {server : Server σ}
    {reply : Reply} (permits : request.Permits target server reply)
    {segments : List (List Bytes)} : call.Expects segments reply := by
  cases call with
  | get db key maxSize => exact absurd rfl (other db key maxSize)
  | openName =>
    cases request <;> cases suits
    cases reply with
    | opened status db => exact ⟨status, db, rfl, permits.mp⟩
    | _ => cases permits
  | put | erase =>
    cases request <;> cases suits
    all_goals
      cases reply with
      | ack status => exact ⟨status, rfl⟩
      | _ => cases permits
  | length =>
    cases request <;> cases suits
    cases reply with
    | length status size => exact ⟨status, size, rfl⟩
    | _ => cases permits
  | listKeys | listPairs =>
    cases request <;> cases suits
    cases reply with
    | listed status count => exact ⟨status, count, rfl⟩
    | _ => cases permits

namespace Client

/-- What a get whose value is pushed is sent with, when there is a buffer for it. -/
theorem stage_get_eq_ok {client after : Client} {id : DatabaseId} {key : Bytes} {maxSize : Nat}
    {staged : Staged}
    (bulk : TransferMode.select key.length maxSize client.settings.maxInline = .bulk)
    (prepared : client.stage (.get id key maxSize) = .ok (staged, after)) :
    maxSize ≤ Bytes.maxLength ∧ ∃ region,
      staged = ⟨.bulkGet id key region.descriptor, [region.id]⟩ ∧
        client.Exposes .writeOnly [Bytes.zeros maxSize] region after := by
  have short : maxSize ≤ Bytes.maxLength := by
    by_contra long
    rw [stage_get_panics bulk (Nat.not_le.mp long)] at prepared
    cases prepared
  obtain ⟨region, later, exposed, exposes⟩ := @stage_get_bulk client id _ _ bulk short
  obtain ⟨rfl, rfl⟩ := Prod.mk.inj (Except.ok.inj (exposed.symm.trans prepared))
  exact ⟨short, region, rfl, exposes⟩

theorem stage_suits {client after : Client} {call : Call} {staged : Staged}
    (prepared : client.stage call = .ok (staged, after)) : staged.request.Suits call := by
  cases call with
  | openName | erase | length =>
    obtain ⟨rfl, -⟩ := Prod.mk.inj (Except.ok.inj prepared)
    trivial
  | put | get =>
    simp only [stage] at prepared
    split at prepared
    · obtain ⟨rfl, -⟩ := Prod.mk.inj (Except.ok.inj prepared)
      trivial
    · obtain ⟨_, -, made⟩ := bind_eq_ok_iff.mp prepared
      obtain ⟨rfl, -⟩ := Prod.mk.inj (Except.ok.inj made)
      trivial
  | listKeys =>
    obtain ⟨_, -, made⟩ := bind_eq_ok_iff.mp prepared
    obtain ⟨rfl, -⟩ := Prod.mk.inj (Except.ok.inj made)
    trivial
  | listPairs =>
    obtain ⟨_, -, made⟩ := bind_eq_ok_iff.mp prepared
    obtain ⟨_, -, made⟩ := bind_eq_ok_iff.mp made
    obtain ⟨rfl, -⟩ := Prod.mk.inj (Except.ok.inj made)
    trivial

/-- The buffer of a get has a size of 64 bits, like every number a request carries. -/
theorem stage_bounded {client after : Client} {call : Call} {staged : Staged}
    (prepared : client.stage call = .ok (staged, after)) : staged.request.Bounded := by
  rintro db key buffer same
  have suits := stage_suits prepared
  rw [same] at suits
  cases call with
  | get id other maxSize =>
    cases mode : TransferMode.select other.length maxSize client.settings.maxInline with
    | inside =>
      simp only [stage, mode] at prepared
      obtain ⟨rfl, -⟩ := Prod.mk.inj (Except.ok.inj prepared)
      cases same
    | bulk =>
      obtain ⟨-, region, rfl, exposes⟩ := stage_get_eq_ok mode prepared
      obtain ⟨-, -, rfl⟩ := Request.bulkGet.inj same
      rw [exposes.descriptor]
      simpa [Descriptor.capacity] using Nat.mod_lt maxSize (by decide : 0 < 2 ^ 64)
  | _ => cases suits

theorem withdraw_lengths {client : Client} {id : UInt64} {lengths : List Nat}
    (held : client.regions.lengths? id = some lengths) :
    ∃ segments, (client.withdraw [id]).1.map (List.map Buffer.bytes) = [segments] ∧
      segments.map List.length = lengths := by
  obtain ⟨region, found, same⟩ := Option.map_eq_some_iff.mp held
  refine ⟨region.contents, ?_, same⟩
  simp [withdraw, Regions.withdraw, found, Region.contents]

/-- The server measures a value by the size it is told, and the buffer of a get comes back as long
as that. -/
theorem expects_of_pushed {id : DatabaseId} {key : Bytes} {maxSize : Nat} {region : Region}
    {client prepared after : Client}
    (exposes : client.Exposes .writeOnly [Bytes.zeros maxSize] region prepared) {target : UInt8}
    {server : Server σ} {reply : Reply}
    (permits : (Request.bulkGet id key region.descriptor).Permits target server reply)
    (lengths : ∀ id, after.regions.lengths? id = prepared.regions.lengths? id) :
    (Call.get id key maxSize).Expects
      ((after.withdraw [region.id]).1.map (List.map Buffer.bytes)) reply := by
  obtain ⟨contents, back, long⟩ :=
    withdraw_lengths ((lengths region.id).trans exposes.held.lengths?)
  rw [back]
  cases reply with
  | bulkGot status size =>
    refine .inr ⟨contents, [], status, size, rfl, rfl, ?_⟩
    intro told
    obtain ⟨value, -, sized, within⟩ := permits.whole told
    have capacity : region.descriptor.capacity = maxSize % 2 ^ 64 := by
      simp [exposes.descriptor, Descriptor.capacity, Bytes.zeros]
    have room : (contents.headD []).length = maxSize := by
      cases contents with
      | nil => simp at long
      | cons segment others => simpa [Bytes.zeros] using (List.cons.inj long).1
    rw [room, sized]
    rw [capacity] at within
    exact within.trans (Nat.mod_le ..)
  | _ => cases permits

/-- A request keeps the shape of its call, so a reply that fits the one makes sense to the other,
when the regions of the call come back as long as they were exposed. -/
theorem expects_of_permits {client prepared after : Client} {call : Call} {staged : Staged}
    (made : client.stage call = .ok (staged, prepared)) {target : UInt8} {server : Server σ}
    {reply : Reply} (permits : staged.request.Permits target server reply)
    (lengths : ∀ id, after.regions.lengths? id = prepared.regions.lengths? id) :
    call.Expects ((after.withdraw staged.regions).1.map (List.map Buffer.bytes)) reply := by
  cases call with
  | get db key maxSize =>
    cases mode : TransferMode.select key.length maxSize client.settings.maxInline with
    | inside =>
      simp only [stage, mode] at made
      obtain ⟨rfl, -⟩ := Prod.mk.inj (Except.ok.inj made)
      cases reply with
      | got status value size => exact .inl ⟨rfl, status, value, size, rfl⟩
      | _ => cases permits
    | bulk =>
      obtain ⟨-, region, rfl, exposes⟩ := stage_get_eq_ok mode made
      exact expects_of_pushed exposes permits lengths
  | _ => exact Call.expects_of_suits (stage_suits made) (by rintro _ _ _ ⟨⟩) permits

variable {client prepared : Client} {call : Call} {staged : Staged} {target : UInt8}

/-- A call that is concluded with a reply permitted to it, or with a failure that blames no
reply. -/
theorem conclude_blameless {after later : Client} {result : Except Error Reply}
    (made : client.stage call = .ok (staged, prepared))
    (blameless : ∀ error, result = .error error → error.blamesReply = false)
    (lengths : ∀ id, after.regions.lengths? id = prepared.regions.lengths? id)
    (permits : ∀ reply, result = .ok reply →
      ∃ server : Server σ, staged.request.Permits target server reply)
    {returned : Returned call}
    (concluded : after.conclude call staged.regions result = (.ok returned, later)) {error : Error}
    (failed : returned.outcome = .error error) : error.blamesReply = false := by
  have read := conclude_eq_ok concluded
  cases result with
  | error fault =>
    obtain rfl := Except.ok.inj read
    obtain rfl := Except.error.inj failed
    exact blameless _ rfl
  | ok reply =>
    obtain ⟨server, fits⟩ := permits reply rfl
    exact Call.readReply_blameless (expects_of_permits made fits lengths) read failed

/-- A call that reads a first reply permitted to it, and failures that blame no reply. -/
theorem call_blameless {peer : String} {readings : List Reading} {visit : Visit call}
    (made : client.stage call = .ok (staged, prepared))
    (blameless : ∀ error, .error error ∈ readings → Error.blamesReply error = false)
    (permits : ∀ reply, readings.findSome? Reading.reply? = some reply →
      ∃ server : Server σ, staged.request.Permits target server reply)
    (visited : client.call call target peer (.readings readings) = some visit) {error : Error}
    (failed : visit.returned.outcome = .error error) : error.blamesReply = false := by
  obtain ⟨cause, -, refused⟩ | ⟨sent, later, result, same, came, concluded⟩ :=
    call_eq_some visited
  · rw [refused] at failed
    obtain rfl := Except.error.inj failed
    rfl
  · obtain ⟨rfl, rfl⟩ := Prod.mk.inj (Except.ok.inj (made.symm.trans same))
    have talked := exchange_unblamed target staged.request peer blameless prepared
    have faultless : ∀ fault, result = .error fault → fault.blamesReply = false := by
      rintro fault rfl
      rcases came with told | ⟨cause, waited, same⟩
      · exact talked.blameless fault told
      · obtain rfl := Except.error.inj same
        exact silence_blameless waited
    have fits : ∀ reply, result = .ok reply →
        ∃ server : Server σ, staged.request.Permits target server reply := by
      rintro reply rfl
      rcases came with told | ⟨cause, -, wrong⟩
      · exact permits reply (exchange_reply told)
      · cases wrong
    exact conclude_blameless made faultless talked.lengths fits concluded failed

end Client

/-- What a caller reads of the frames that are written on a line: those that come, and then perhaps
failures of the stream. -/
def Reading.ofFrames (frames : List Frame) (came : Nat) (faults : List StreamFault) :
    List Reading :=
  (frames.take came).map .ok ++ faults.map fun fault => .error (.stream fault)

namespace Reading

variable {frames : List Frame} {came : Nat} {faults : List StreamFault}

theorem ofFrames_blameless (error : Error) (member : .error error ∈ ofFrames frames came faults) :
    error.blamesReply = false := by
  rcases List.mem_append.mp member with framed | faulty
  · obtain ⟨frame, -, wrong⟩ := List.mem_map.mp framed
    cases wrong
  · obtain ⟨fault, -, same⟩ := List.mem_map.mp faulty
    obtain rfl := Except.error.inj same
    rfl

theorem ofFrames_reply {reply : Reply}
    (read : (ofFrames frames came faults).findSome? reply? = some reply) :
    frames.findSome? Frame.reply? = some reply := by
  have silent : (faults.map fun fault => Except.error (.stream fault)).findSome? reply? = none := by
    simp [reply?]
  rw [ofFrames, List.findSome?_append, silent, Option.or_none, List.findSome?_map] at read
  exact List.IsPrefix.findSome?_eq_some (List.take_prefix came frames) read

end Reading

/-- A call over a line that was idle, while the server serves its other lines as they come. -/
theorem Switchboard.call_blameless (paged : Engine.Paged σ) {board : Switchboard σ} {line : Nat}
    (idle : board.lines line = .idle) {client prepared : Client} {call : Call} {staged : Staged}
    (made : client.stage call = .ok (staged, prepared)) {target : UInt8}
    {peer : String} {events : List (Nat × Reading)} {came : Nat} {faults : List StreamFault}
    {visit : Visit call}
    (visited : client.call call target peer (.readings (Reading.ofFrames (board.written line
      ((line, .ok (.request target staged.request)) :: events)) came faults)) = some visit)
    {error : Error} (failed : visit.returned.outcome = .error error) :
    error.blamesReply = false := by
  have permits : ∀ reply,
      (board.written line ((line, .ok (.request target staged.request)) :: events)).findSome?
        Frame.reply? = some reply →
      ∃ server : Server σ, staged.request.Permits target server reply :=
    fun reply first =>
      ⟨board.server, first_reply_permits paged (Client.stage_bounded made) idle first⟩
  exact Client.call_blameless made Reading.ofFrames_blameless
    (fun reply read => permits reply (Reading.ofFrames_reply read)) visited failed

theorem Server.Replies.permits (paged : Engine.Paged σ) {target : UInt8} {request : Request}
    (bounded : request.Bounded) {peer : String} {regions : Regions} {reply : Reply}
    {server after : Server σ} (replies : server.Replies target request peer regions reply after) :
    request.Permits target server reply := by
  obtain ⟨asks, answers, left, changed, -, ran, -⟩ := replies
  apply Connection.episode_permits paged bounded target server (answers.map .ok)
  rw [ran]
  simp

theorem Caller.Rests.call_blameless (paged : Engine.Paged σ) {caller : Caller}
    (rests : caller.Rests) {network : Network} {active : Nat} {target : UInt8} {call : Call}
    {server : Server σ} {visit : Visited call σ}
    (visited : caller.call network active target call server = some visit) {error : Error}
    (failed : visit.returned.outcome = .error error) : error.blamesReply = false := by
  have fares := Fate.returned?_eq_some.mp visited
  simp only [fate] at fares
  split at fares
  · obtain rfl := Fate.returned.inj fares
    obtain rfl := Except.error.inj failed
    rfl
  · split at fares
    · cases fares
    · rename_i staged client made
      have talked := exchange_unblamed network active target staged.request { caller with client }
        server
      have kept : ({ caller with client } : Caller).Rests := rests
      have replies := (exchange_rests kept network active target staged.request server).2
      split at fares
      · cases fares
      · rename_i result later last sent
        rw [sent] at talked replies
        have faultless : ∀ fault, result = .error fault → fault.blamesReply = false := by
          rintro fault rfl
          exact talked.blameless fault rfl
        have fits : ∀ reply, result = .ok reply →
            ∃ server : Server σ, staged.request.Permits target server reply := by
          rintro reply rfl
          exact ⟨server, (replies reply rfl).permits paged (Client.stage_bounded made)⟩
        split at fares
        · cases fares
        · rename_i concluded
          obtain rfl := Fate.returned.inj fares
          exact Client.conclude_blameless made faultless talked.lengths fits concluded failed

open Switchboard (ofServer)

/-- Every reply that is written is to a call that was read, and has the shape and a status of it,
whatever the lines of the server read and in which order. So a client never takes a reply for one
that does not match its call, or that claims more bytes than its buffer has: neither over a line of
a server that serves others meanwhile, nor over the lines it keeps between its calls. -/
theorem replies_fit_calls (paged : Engine.Paged σ) :
    (∀ (server : Server σ) (events : List (Nat × Reading)),
      (∀ event ∈ events, Reading.Bounded event.2) →
      ((ofServer server).run events).map Answered.reply = (ofServer server).replies events ∧
        ∀ answered ∈ (ofServer server).run events,
          (ofServer server).Fits events answered.toBegun answered.reply) ∧
    (∀ (board : Switchboard σ) (line : Nat), board.lines line = .idle →
      ∀ (client prepared : Client) (call : Call) (staged : Staged),
        client.stage call = .ok (staged, prepared) →
      ∀ (target : UInt8) (peer : String) (events : List (Nat × Reading)) (came : Nat)
        (faults : List StreamFault) (visit : Visit call),
        let request := Frame.request target staged.request
        client.call call target peer (.readings (Reading.ofFrames
          (board.written line ((line, .ok request) :: events)) came faults)) = some visit →
        ∀ error, visit.returned.outcome = .error error → error.blamesReply = false) ∧
    (∀ (caller : Caller) (server : Server σ) (happenings : List (Happening σ))
      (state : Caller × Server σ), caller.idle = [] →
      Happening.run happenings (caller, server) = some state →
      ∀ network active target call visit,
        state.1.call network active target call state.2 = some visit →
        ∀ error, visit.returned.outcome = .error error → error.blamesReply = false) := by
  refine ⟨?_, ?_, ?_⟩
  · intro server events bounded
    exact Switchboard.run_fits paged server bounded
  · intro board line idle client prepared call staged made target peer events came faults visit
      request visited error
    exact Switchboard.call_blameless paged idle made visited
  · intro caller server happenings state unused came network active target call visit visited error
    have fresh : (caller, server).1.Rests := by simp [Caller.Rests, unused]
    have rests : state.1.Rests := Happening.run_rests fresh came
    exact rests.call_blameless paged visited

/-- A get with a buffer too short for its value, while another line is at a call of its own; and the
same get after one that was answered. -/
theorem replies_fit_calls_short_buffer :
    let store : MapStore := { options := {}, entries := [⟨[7], [5, 6, 8]⟩] }
    let server := Server.ofEngine (Store.map store)
    let client : Client := { settings := { maxInline := 0 } }
    let get (maxSize : Nat) : Call := .get ⟨1⟩ [7] maxSize
    let staged : Staged := ⟨.bulkGet ⟨1⟩ [7] ⟨1, .writeOnly, [2]⟩, [1]⟩
    let events : List (Nat × Reading) :=
      [(0, .ok (.request 1 staged.request)), (1, .ok (.request 1 (.get ⟨1⟩ [7] 3)))]
    (((ofServer server).run events).map Answered.reply =
        [.bulkGot .truncated 3, .got .ok [5, 6, 8] 3] ∧
      ∀ answered ∈ (ofServer server).run events,
        (ofServer server).Fits events answered.toBegun answered.reply) ∧
    (∃ prepared visit, client.stage (get 2) = .ok (staged, prepared) ∧
      client.call (get 2) 1 "" (.readings (Reading.ofFrames
        ((ofServer server).written 0 events) 1 [])) = some visit ∧
      ∃ error, visit.returned.outcome = .error error ∧ error.blamesReply = false) ∧
    ∃ state visit, Happening.run [.call .steady 0 1 (get 3)] ({ client }, server) = some state ∧
      state.1.call .steady 1 1 (get 2) state.2 = some visit ∧
      ∃ error, visit.returned.outcome = .error error ∧ error.blamesReply = false := by
  intro store server client get staged events
  obtain ⟨replies, calls, lines⟩ := replies_fit_calls Store.paged
  obtain ⟨prepared, made⟩ : ∃ prepared, client.stage (get 2) = .ok (staged, prepared) := ⟨_, rfl⟩
  have bounded : ∀ event ∈ events, Reading.Bounded event.2 := by
    rintro event member target request same
    rcases List.mem_cons.mp member with rfl | other
    · obtain ⟨-, rfl⟩ := Frame.request.inj (Except.ok.inj same)
      exact Client.stage_bounded made
    · obtain rfl := List.mem_singleton.mp other
      obtain ⟨-, rfl⟩ := Frame.request.inj (Except.ok.inj same)
      rintro _ _ _ ⟨⟩
  obtain ⟨written, fits⟩ := replies server events bounded
  have truncated : (client.call (get 2) 1 "" (.readings (Reading.ofFrames
      ((ofServer server).written 0 events) 1 []))).map (fun visit => visit.returned.outcome) =
        some (.error (.truncated 3)) := by decide +kernel
  have again : ((Happening.run [.call .steady 0 1 (get 3)] ({ client }, server)).bind fun state =>
      state.1.call .steady 1 1 (get 2) state.2).map (fun visit => visit.returned.outcome) =
        some (.error (.truncated 3)) := by decide +kernel
  obtain ⟨visit, visited, failed⟩ := Option.map_eq_some_iff.mp truncated
  obtain ⟨later, ran, told⟩ := Option.map_eq_some_iff.mp again
  obtain ⟨state, came, called⟩ := Option.bind_eq_some_iff.mp ran
  refine ⟨⟨written.trans (by decide +kernel), fits⟩,
    ⟨prepared, visit, made, visited, _, failed, ?_⟩, state, later, came, called, _, told, ?_⟩
  · exact calls (ofServer server) 0 rfl client prepared (get 2) staged made 1 "" events.tail 1 []
      visit visited _ failed
  · exact lines { client } server _ state rfl came _ _ _ _ later called _ told

end KeyDepot
