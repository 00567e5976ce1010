import KeyDepot.Bulk.Layout
import KeyDepot.Error

/-!
Calls of a client as data: what a caller asks for, what it gets back, and how a reply is read. A
listing fills slots of the caller, one item each, and never touches a slot beyond the last item.
-/

namespace KeyDepot

inductive Call where
  /-- Which database has this name? -/
  | openName (name : String)
  | put (db : DatabaseId) (key value : Bytes)
  /-- Fetch a value of at most `maxSize` bytes. -/
  | get (db : DatabaseId) (key : Bytes) (maxSize : Nat)
  | erase (db : DatabaseId) (key : Bytes)
  | length (db : DatabaseId) (key : Bytes)
  /-- The keys after `start` that begin with `stem`, as many as there are slots; the length of a
  slot is the greatest length of its key. -/
  | listKeys (db : DatabaseId) (start stem : Bytes) (slots : List Bytes)
  /-- A listing of keys with their values, which needs as many slots of either kind. -/
  | listPairs (db : DatabaseId) (start stem : Bytes) (slots valueSlots : List Bytes)
  deriving DecidableEq, Repr, Inhabited

namespace Call

/-- The type of what a call returns: for a listing, the number of slots filled. -/
@[reducible] def Answer : Call → Type
  | openName _ => DatabaseId
  | put .. | erase .. => Bool
  | get .. => Option Bytes
  | length .. => Option Nat
  | listKeys .. | listPairs .. => Nat

/-- Slots for `count` items of at most `capacity` bytes. -/
def freshSlots (count capacity : Nat) : Except Panic (List Bytes) := do
  let slot ← Bytes.allocate capacity
  Bytes.copies count slot

/-- A call that is refused before anything is sent. -/
def misuse? : Call → Option Misuse
  | listPairs _ _ _ slots valueSlots =>
    if slots.length = valueSlots.length then none
    else some (.slotCounts slots.length valueSlots.length)
  | _ => none

end Call

/-- The slots of a listing. -/
structure Slots where
  keys : List Bytes := []
  values : List Bytes := []
  deriving DecidableEq, Repr, Inhabited

/-- The slots a call is made with. -/
def Call.slots : Call → Slots
  | .listKeys _ _ _ slots => { keys := slots }
  | .listPairs _ _ _ slots valueSlots => { keys := slots, values := valueSlots }
  | _ => {}

/-- What a call returned, and its slots after it. -/
structure Returned (call : Call) where
  outcome : Except Error call.Answer
  slots : Slots

namespace Slots

/-- The slots as long as these items need, when the items did not fit. -/
def resize : (slots : List Bytes) → (lengths : List Nat) → Except Panic (List Bytes)
  | _ :: slots, length :: lengths => do
    let slot ← Bytes.allocate length
    let others ← resize slots lengths
    return slot :: others
  | slots, _ => return slots

/-- Slots filled with the items whose lengths are given, the first being number `index`. The items
are leading parts of the segments; one that is longer than its segment leaves its slot empty and the
slots after it as they were. -/
def fill (index : Nat) (slots segments : List Bytes) (lengths : List Nat) :
    List Bytes × Option Violation :=
  match slots, lengths with
  | _ :: slots, length :: lengths =>
    let segment := segments.headD []
    if segments.isEmpty || segment.length < length then
      ([] :: slots, some (.itemOverrun index length))
    else
      let (filled, fault) := fill (index + 1) slots segments.tail lengths
      (segment.take length :: filled, fault)
  | _, _ => (slots, none)

end Slots

namespace Call

/-- The failure that a reply other than those of its call stands for. -/
def unexpected (reply : Reply) : Error :=
  match reply.status with
  | .ok => .protocol (.replyMismatch reply)
  | status => .remote status

/-- Reads a reply to a listing whose segments and packed lengths have come back. -/
def readListing (slots : Slots) (keys keyLengths values valueLengths : List Bytes)
    (reply : Reply) : Except Panic (Except Error Nat × Slots) :=
  let lengths (count : Nat) (packed : List Bytes) := Bulk.unpackLengths count packed.flatten
  match reply with
  | .listed .ok count =>
    let count := min count.toNat slots.keys.length
    let (filledKeys, keyFault) := Slots.fill 0 slots.keys keys (lengths count keyLengths)
    let (filledValues, fault) :=
      match keyFault with
      | some fault => (slots.values, some fault)
      | none => Slots.fill 0 slots.values values (lengths count valueLengths)
    let outcome := match fault with
      | some fault => .error (.protocol fault)
      | none => .ok count
    return (outcome, { keys := filledKeys, values := filledValues })
  | .listed .truncated count => do
    let count := min count.toNat slots.keys.length
    let keys ← Slots.resize slots.keys (lengths count keyLengths)
    let values ← Slots.resize slots.values (lengths count valueLengths)
    return (.error (.remote .truncated), { keys, values })
  | other => return (.error (unexpected other), slots)

/-- Reads the reply to a call. `segments` holds the contents of the regions that were exposed for
the call, in the order of their exposure. -/
def readReply (call : Call) (segments : List (List Bytes)) (reply : Reply) :
    Except Panic (Returned call) :=
  match call with
  | .openName _ =>
    return ⟨match reply with
      | .opened .ok (some id) => .ok id
      | other => .error (unexpected other), {}⟩
  | .put .. =>
    return ⟨match reply with
      | .ack .ok => .ok true
      | .ack .policyViolation => .ok false
      | other => .error (unexpected other), {}⟩
  | .get .. =>
    return ⟨match segments with
      | [] =>
        match reply with
        | .got .ok value _ => .ok (some value)
        | .got .notFound _ _ => .ok none
        | .got .truncated _ size => .error (.truncated size)
        | other => .error (unexpected other)
      | region :: _ =>
        let buffer := region.headD []
        match reply with
        | .bulkGot .ok size =>
          if size.toNat ≤ buffer.length then .ok (some (buffer.take size.toNat))
          else .error (.protocol (.replyOverrun size.toNat buffer.length))
        | .bulkGot .notFound _ => .ok none
        | .bulkGot .truncated size => .error (.truncated size)
        | other => .error (unexpected other), {}⟩
  | .erase .. =>
    return ⟨match reply with
      | .ack .ok => .ok true
      | .ack .notFound => .ok false
      | other => .error (unexpected other), {}⟩
  | .length .. =>
    return ⟨match reply with
      | .length .ok size => .ok (some size.toNat)
      | .length .notFound _ => .ok none
      | other => .error (unexpected other), {}⟩
  | .listKeys _ _ _ keys => do
    let (outcome, slots) ←
      readListing { keys } (segments.getD 0 []) (segments.getD 1 []) [] [] reply
    return ⟨outcome, slots⟩
  | .listPairs _ _ _ keys values => do
    let (outcome, slots) ←
      readListing { keys, values } (segments.getD 0 []) (segments.getD 1 [])
        (segments.getD 2 []) (segments.getD 3 []) reply
    return ⟨outcome, slots⟩

/-- What a call returns that ended with a reply, or with a failure to get one. -/
def conclude (call : Call) (segments : List (List Bytes)) (result : Except Error Reply) :
    Except Panic (Returned call) :=
  match result with
  | .ok reply => call.readReply segments reply
  | .error error => return ⟨.error error, call.slots⟩

end Call

end KeyDepot
