import KeyDepot.Proofs.RegionAccess

/-! What a push does to a region. It is accepted exactly when every write fits, wherever the writes
stand; then each byte is the last one written at its place, or what was there before, and no segment
changes its length or its room. -/

namespace KeyDepot

theorem Bytes.getElem?_overwrite (target data : Bytes) (offset : Nat) :
    (target.overwrite data)[offset]? = target[offset]?.map fun old => data[offset]?.getD old := by
  rcases Nat.lt_or_ge offset target.length with within | beyond
  · rw [List.getElem?_eq_getElem within, Option.map_some]
    rcases Nat.lt_or_ge offset data.length with written | kept
    · have front : offset < (data.take target.length).length := by
        rw [List.length_take]
        omega
      rw [overwrite, List.getElem?_append_left front, List.getElem?_take_of_lt within,
        List.getElem?_eq_getElem written, Option.getD_some]
    · have back : (data.take target.length).length ≤ offset := by
        rw [List.length_take]
        omega
      have short : min target.length data.length = data.length := by omega
      rw [overwrite, List.getElem?_append_right back, List.getElem?_drop, List.length_take, short,
        Nat.add_sub_cancel' kept, List.getElem?_eq_getElem within, List.getElem?_eq_none kept,
        Option.getD_none]
  · rw [List.getElem?_eq_none beyond, Option.map_none, List.getElem?_eq_none]
    rwa [length_overwrite]

/-- The byte at a place of some segments. -/
def Bytes.at? (contents : List Bytes) (index offset : Nat) : Option UInt8 :=
  contents[index]?.bind fun segment => segment[offset]?

namespace SegmentWrite

/-- The byte that a write puts at a place, when it reaches it. -/
def byte? (index offset : Nat) (write : SegmentWrite) : Option UInt8 :=
  if write.index.toNat = index then write.data[offset]? else none

/-- The byte that was written last at a place. -/
def last? (writes : List SegmentWrite) (index offset : Nat) : Option UInt8 :=
  writes.reverse.findSome? (byte? index offset)

theorem last?_cons (first : SegmentWrite) (writes : List SegmentWrite) (index offset : Nat) :
    last? (first :: writes) index offset =
      (last? writes index offset).or (first.byte? index offset) := by
  rw [last?, List.reverse_cons, List.findSome?_append, List.findSome?_singleton, last?]

end SegmentWrite

namespace Region

open SegmentWrite

theorem at?_applyWrite (contents : List Bytes) (write : SegmentWrite) (index offset : Nat) :
    Bytes.at? (applyWrite contents write) index offset =
      (Bytes.at? contents index offset).map fun old => (write.byte? index offset).getD old := by
  rw [Bytes.at?, applyWrite, List.getElem?_modify, Bytes.at?]
  cases contents[index]? with
  | none => rfl
  | some segment =>
    by_cases named : write.index.toNat = index
    · simp only [named, if_true, Option.map_eq_map, Option.map_some, Option.bind_some, byte?]
      exact Bytes.getElem?_overwrite ..
    · simp [named, byte?]

/-- After a push each byte is the one written last at its place, or the old one. -/
theorem at?_foldl_applyWrite (contents : List Bytes) (writes : List SegmentWrite)
    (index offset : Nat) :
    Bytes.at? (writes.foldl applyWrite contents) index offset =
      (Bytes.at? contents index offset).map fun old => (last? writes index offset).getD old := by
  induction writes generalizing contents with
  | nil => simp [last?]
  | cons first writes ih =>
    rw [List.foldl_cons, ih, at?_applyWrite, Option.map_map, last?_cons]
    congr 1
    funext old
    cases last? writes index offset <;> rfl

theorem lengths_foldl_applyWrite (contents : List Bytes) (writes : List SegmentWrite) :
    (writes.foldl applyWrite contents).map List.length = contents.map List.length := by
  induction writes generalizing contents with
  | nil => rfl
  | cons first writes ih =>
    rw [List.foldl_cons, ih]
    apply List.ext_getElem?
    intro index
    simp only [applyWrite, List.getElem?_map, List.getElem?_modify]
    split <;> cases contents[index]? <;> simp

theorem capacities_foldl_write (segments : List Buffer) (writes : List SegmentWrite) :
    (writes.foldl write segments).map Buffer.capacity = segments.map Buffer.capacity := by
  induction writes generalizing segments with
  | nil => rfl
  | cons first writes ih =>
    rw [List.foldl_cons, ih]
    apply List.ext_getElem?
    intro index
    simp only [write, List.getElem?_map, List.getElem?_modify]
    split <;> cases segments[index]? <;> simp

theorem fits_of_admits {region : Region} {write : SegmentWrite}
    (admitted : region.admits write = .ok ()) : Fits region.contents write := by
  simp only [admits] at admitted
  split at admitted
  · cases admitted
  · rename_i segment held
    split at admitted
    · cases admitted
    · rename_i room
      exact ⟨segment.bytes, by simp [contents, held], Nat.not_lt.mp room⟩

/-- A push is accepted as a whole: every write must fit, wherever it stands. -/
theorem push_eq_ok_iff {region written : Region} {writes : List SegmentWrite} :
    region.push writes = .ok written ↔ (∀ write ∈ writes, Fits region.contents write) ∧
      written = { region with segments := writes.foldl write region.segments } := by
  have accepted : writes.forM region.admits = .ok () ↔
      ∀ write ∈ writes, Fits region.contents write := by
    refine ⟨?_, forM_admits⟩
    induction writes with
    | nil => simp
    | cons first writes ih =>
      intro admitted
      change (region.admits first >>= fun _ => writes.forM region.admits) = _ at admitted
      cases fits : region.admits first with
      | error error =>
        rw [fits] at admitted
        cases admitted
      | ok _ =>
        rw [fits] at admitted
        exact List.forall_mem_cons.mpr ⟨fits_of_admits fits, ih admitted⟩
  rw [← accepted, push]
  cases writes.forM region.admits with
  | error error => constructor <;> simp [bind, Except.bind]
  | ok _ => simp [bind, Except.bind, pure, Except.pure, eq_comm]

end Region

namespace Regions

variable {regions after : Regions} {id : UInt64} {writes : List SegmentWrite}

/-- The other side may write there, and every write fits. -/
def Accepts (id : UInt64) (writes : List SegmentWrite) (regions : Regions) : Prop :=
  ∃ region, regions.find? id = some region ∧ region.access.writable = true ∧
    ∀ write ∈ writes, Region.Fits region.contents write

theorem push_eq_ok (pushed : regions.push id writes = .ok after) :
    ∃ region, regions.find? id = some region ∧ region.access.writable = true ∧
      (∀ write ∈ writes, Region.Fits region.contents write) ∧
      after = { regions with live := regions.live.map fun other => if other.id == id then
        { region with segments := writes.foldl Region.write region.segments } else other } := by
  simp only [push] at pushed
  split at pushed
  · cases pushed
  · rename_i region found
    split at pushed
    · rename_i writable
      split at pushed
      · cases pushed
      · rename_i written applied
        obtain ⟨fits, rfl⟩ := Region.push_eq_ok_iff.mp applied
        exact ⟨region, found, writable, fits, (Except.ok.inj pushed).symm⟩
    · cases pushed

theorem accepts_of_push (pushed : regions.push id writes = .ok after) :
    regions.Accepts id writes := by
  obtain ⟨region, found, writable, fits, -⟩ := push_eq_ok pushed
  exact ⟨region, found, writable, fits⟩

theorem not_accepts_of_push {error : Error} (refused : regions.push id writes = .error error) :
    ¬ regions.Accepts id writes := by
  rintro ⟨region, found, writable, fits⟩
  have applied := Region.push_eq_ok_iff.mpr ⟨fits, rfl⟩
  simp [push, found, writable, applied] at refused

theorem find?_push (pushed : regions.push id writes = .ok after) :
    ∃ region, regions.find? id = some region ∧
      after.find? id =
        some { region with segments := writes.foldl Region.write region.segments } := by
  obtain ⟨region, found, -, -, rfl⟩ := push_eq_ok pushed
  have named : region.id = id := id_of_find? found
  refine ⟨region, found, ?_⟩
  exact find?_replace (fun region : Region => region.id == id) found (by simp [named])

theorem find?_push_other (pushed : regions.push id writes = .ok after) {other : UInt64}
    (apart : other ≠ id) : after.find? other = regions.find? other := by
  obtain ⟨region, found, -, -, rfl⟩ := push_eq_ok pushed
  have named := id_of_find? found
  refine find?_replace_other (fun region : Region => region.id == id) ?_ ?_
  · simp [named, Ne.symm apart]
  · intro item same
    simp [beq_iff_eq.mp same, Ne.symm apart]

theorem ids_push (pushed : regions.push id writes = .ok after) : after.ids = regions.ids := by
  obtain ⟨region, found, -, -, rfl⟩ := push_eq_ok pushed
  have named := id_of_find? found
  simp only [ids, List.map_map]
  apply List.map_congr_left
  intro other _
  by_cases same : other.id = id
  · simp [same, named]
  · simp [same]

theorem next_push (pushed : regions.push id writes = .ok after) : after.next = regions.next := by
  obtain ⟨region, -, -, -, rfl⟩ := push_eq_ok pushed
  rfl

/-- How the regions after an accepted push differ from those before it: in the bytes of one region
that a write reached, where the last write counts. -/
structure Overwrites (id : UInt64) (writes : List SegmentWrite) (regions after : Regions) :
    Prop where
  accepted : regions.Accepts id writes
  ids : after.ids = regions.ids
  others : ∀ other ≠ id, after.find? other = regions.find? other
  written : ∃ region now, regions.find? id = some region ∧ after.find? id = some now ∧
    now.access = region.access ∧
    now.contents.map List.length = region.contents.map List.length ∧
    ∀ index offset, Bytes.at? now.contents index offset =
      (Bytes.at? region.contents index offset).map fun old =>
        (SegmentWrite.last? writes index offset).getD old

theorem overwrites_of_push (pushed : regions.push id writes = .ok after) :
    regions.Overwrites id writes after where
  accepted := accepts_of_push pushed
  ids := ids_push pushed
  others _ apart := find?_push_other pushed apart
  written := by
    obtain ⟨region, found, written⟩ := find?_push pushed
    have contents := Region.map_bytes_foldl_write region.segments writes
    refine ⟨region, _, found, written, rfl, ?_, fun index offset => ?_⟩
    · simp only [Region.contents, contents]
      exact Region.lengths_foldl_applyWrite ..
    · simp only [Region.contents, contents]
      exact Region.at?_foldl_applyWrite ..

end Regions

end KeyDepot
