import KeyDepot.Bulk.Pool

/-!
Exposed regions: memory that a caller lets the other side read or write by number, from its exposure
to its withdrawal. A push is applied as a whole or not at all.
-/

namespace KeyDepot

structure Region where
  id : UInt64
  access : Access
  segments : List Buffer
  deriving DecidableEq, Repr, Inhabited

namespace Region

def descriptor (region : Region) : Descriptor :=
  { region := region.id
    access := region.access
    sizes := region.segments.map fun segment => UInt64.ofNat segment.length }

/-- A write must name a segment and fit it. -/
def admits (region : Region) (write : SegmentWrite) : Except Error Unit :=
  match region.segments[write.index.toNat]? with
  | none => .error (.invalidArgument (.segmentUnknown region.id write.index))
  | some segment =>
    if segment.length < write.data.length then
      .error (.invalidArgument (.segmentOverflow write.data.length write.index segment.length))
    else .ok ()

/-- Replaces the beginning of the named segment. -/
def write (segments : List Buffer) (write : SegmentWrite) : List Buffer :=
  segments.modify write.index.toNat fun segment =>
    { segment with bytes := segment.bytes.overwrite write.data }

/-- Every write is admitted before the first is applied. -/
def push (region : Region) (writes : List SegmentWrite) : Except Error Region := do
  writes.forM region.admits
  return { region with segments := writes.foldl write region.segments }

end Region

/-- The live regions of a caller, and the number the next one gets. -/
structure Regions where
  next : Nat := 1
  live : List Region := []
  deriving DecidableEq, Repr, Inhabited

namespace Regions

def find? (id : UInt64) (regions : Regions) : Option Region :=
  regions.live.find? fun region => region.id == id

def size (regions : Regions) : Nat := regions.live.length

/-- Grants the other side access to the segments, under a number never used before. -/
def expose (segments : List Buffer) (access : Access) (regions : Regions) :
    Region × Regions :=
  let region : Region := { id := UInt64.ofNat regions.next, access, segments }
  (region, { next := regions.next + 1, live := region :: regions.live })

/-- The contents of a region, for the other side. -/
def pull (id : UInt64) (regions : Regions) : Except Error (List Bytes) :=
  match regions.find? id with
  | none => .error (.invalidArgument (.regionUnknown id))
  | some region =>
    if region.access.readable then .ok (region.segments.map Buffer.bytes)
    else .error (.invalidArgument (.pullForbidden id))

/-- Applies writes of the other side to a region. -/
def push (id : UInt64) (writes : List SegmentWrite) (regions : Regions) : Except Error Regions :=
  match regions.find? id with
  | none => .error (.invalidArgument (.regionUnknown id))
  | some region =>
    if region.access.writable then
      match region.push writes with
      | .error error => .error error
      | .ok written =>
        let replace (other : Region) : Region := if other.id == id then written else other
        .ok { regions with live := regions.live.map replace }
    else .error (.invalidArgument (.pushForbidden id))

/-- Ends the grant. -/
def revoke (id : UInt64) (regions : Regions) : Regions :=
  { regions with live := regions.live.filter fun region => region.id != id }

/-- Ends the grant and hands back the segments as they are now. -/
def withdraw (id : UInt64) (regions : Regions) : List Buffer × Regions :=
  let segments := match regions.find? id with
    | some region => region.segments
    | none => []
  (segments, regions.revoke id)

end Regions

end KeyDepot
