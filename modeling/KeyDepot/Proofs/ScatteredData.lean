import KeyDepot.Proofs.CallTalk
import KeyDepot.Proofs.RegionWrites
import KeyDepot.Proofs.SlotLayout
import KeyDepot.Proofs.WithinDescriptors

/-! Data scattered over the segments of a region, and gathered from them again. However the region
is cut, its segments joined begin with the data and go on as before, so what was packed on one side
is unpacked on the other. -/

namespace KeyDepot

/-- Writing over a joint is writing up to it and writing the rest behind it. -/
theorem Bytes.overwrite_append (left right data : Bytes) :
    overwrite (left ++ right) data =
      left.overwrite (data.take left.length) ++ right.overwrite (data.drop left.length) := by
  rcases Nat.le_total data.length left.length with short | long
  · have whole : data.take left.length = data := List.take_of_length_le short
    have none : data.drop left.length = [] := List.drop_of_length_le short
    have room : data.length ≤ (left ++ right).length := by
      rw [List.length_append]
      omega
    rw [whole, none, overwrite_nil, overwrite_eq_append room, overwrite_eq_append short,
      List.drop_append_of_le_length short, List.append_assoc]
  · have filled : left.overwrite (data.take left.length) = data.take left.length := by
      rw [overwrite, List.take_take, Nat.min_self, List.length_take, Nat.min_eq_left long,
        List.drop_length, List.append_nil]
    rw [filled, overwrite, overwrite, List.length_append, List.take_add, List.append_assoc,
      List.drop_append, List.drop_of_length_le long, List.nil_append, List.length_drop]

namespace Bulk

variable {data : Bytes} {sizes : List UInt64}

theorem scatterFrom_nil (index : Nat) (sizes : List UInt64) : scatterFrom index [] sizes = [] := by
  cases sizes <;> rfl

theorem scatterFrom_cons (index : Nat) (some_ : data ≠ []) (size : UInt64) (sizes : List UInt64) :
    scatterFrom index data (size :: sizes) =
      ⟨UInt32.ofNat index, data.take size.toNat⟩ ::
        scatterFrom (index + 1) (data.drop size.toNat) sizes := by
  rw [scatterFrom, if_neg]
  simpa using some_

theorem data_scatterFrom (index : Nat) (data : Bytes) (sizes : List UInt64) :
    (scatterFrom index data sizes).flatMap SegmentWrite.data =
      data.take (sizes.map UInt64.toNat).sum := by
  induction sizes generalizing index data with
  | nil => simp [scatterFrom]
  | cons size sizes ih =>
    by_cases none : data = []
    · simp [none, scatterFrom_nil]
    · rw [scatterFrom_cons index none, List.flatMap_cons, ih, List.map_cons, List.sum_cons,
        List.take_add]

theorem index_scatter (few : sizes.length ≤ 2 ^ 32) (data : Bytes) :
    (scatter data sizes).map (fun write => write.index.toNat) =
      List.range (scatter data sizes).length := by
  apply List.ext_getElem
  · simp
  · intro place inside _
    rw [List.length_map] at inside
    obtain ⟨index, size, held, -⟩ :=
      Descriptor.getElem?_scatterFrom (List.getElem?_eq_getElem inside)
    have within := (List.getElem?_eq_some_iff.mp held).1
    have numbered : (UInt32.ofNat place).toNat = place :=
      UInt32.toNat_ofNat_of_lt' (Nat.lt_of_lt_of_le within few)
    rw [List.getElem_map, List.getElem_range, index, Nat.zero_add, numbered]

/-- Joined, the segments come to be what they were with the data written over them. -/
theorem flatten_foldl_scatterFrom {front segments : List Bytes}
    (sized : segments.map List.length = sizes.map UInt64.toNat)
    (few : front.length + segments.length ≤ 2 ^ 32) (data : Bytes) :
    ((scatterFrom front.length data sizes).foldl Region.applyWrite (front ++ segments)).flatten =
      front.flatten ++ Bytes.overwrite segments.flatten data := by
  -- the segments in front are done, and the next write goes to the one behind them
  induction sizes generalizing front segments data with
  | nil =>
    obtain rfl := List.map_eq_nil_iff.mp sized
    simp [scatterFrom, Bytes.overwrite]
  | cons size sizes ih =>
    cases segments with
    | nil => cases sized
    | cons segment segments =>
      by_cases none : data = []
      · simp [none, scatterFrom_nil]
      · obtain ⟨width, sized⟩ := List.cons.inj sized
        rw [List.length_cons] at few
        let filled := segment.overwrite (data.take segment.length)
        have small : (front ++ [filled]).length + segments.length ≤ 2 ^ 32 := by
          rw [List.length_append, List.length_singleton]
          omega
        have rest := ih sized small (data.drop segment.length)
        rw [List.length_append, List.length_singleton] at rest
        rw [scatterFrom_cons _ none, List.foldl_cons, ← width,
          applyWrite_append front segment segments _ (by omega), rest, List.flatten_concat,
          List.flatten_cons, Bytes.overwrite_append, List.append_assoc]

end Bulk

namespace Regions

/-- A live region is as this descriptor tells, may be written into, and has these contents. -/
structure Offers (buffer : Descriptor) (contents : List Bytes) (regions : Regions) : Prop where
  held : regions.Holds buffer.region buffer.access contents
  writable : buffer.access.writable = true
  sized : contents.map List.length = buffer.sizes.map UInt64.toNat

namespace Offers

variable {buffer : Descriptor} {contents : List Bytes} {regions : Regions}

theorem length_contents (offers : regions.Offers buffer contents) :
    contents.length = buffer.count := by
  have same := congrArg List.length offers.sized
  rwa [List.length_map, List.length_map] at same

theorem length_flatten (offers : regions.Offers buffer contents) :
    contents.flatten.length = buffer.capacity := by
  rw [List.length_flatten, offers.sized]
  rfl

theorem fits (offers : regions.Offers buffer contents) {writes : List SegmentWrite}
    (covers : buffer.Covers writes) : ∀ write ∈ writes, Region.Fits contents write := by
  intro write member
  obtain ⟨size, named, short⟩ := covers.within write member
  have width := congrArg (fun lengths => lengths[write.index.toNat]?) offers.sized
  simp only [List.getElem?_map, named, Option.map_some, Option.map_eq_some_iff] at width
  obtain ⟨segment, there, same⟩ := width
  exact ⟨segment, there, same ▸ short⟩

theorem push_scatter (offers : regions.Offers buffer contents) (few : buffer.count ≤ 2 ^ 32)
    (data : Bytes) :
    ∃ after now, regions.push buffer.region (Bulk.scatter data buffer.sizes) = .ok after ∧
      after.Offers buffer now ∧ now.flatten = Bytes.overwrite contents.flatten data := by
  have fits := offers.fits (Descriptor.covers_scatter few data)
  obtain ⟨after, pushed, held, -⟩ := offers.held.push offers.writable fits
  have segments : ([] : List Bytes).length + contents.length ≤ 2 ^ 32 := by
    rwa [List.length_nil, Nat.zero_add, offers.length_contents]
  refine ⟨after, _, pushed, ⟨held, offers.writable, ?_⟩, ?_⟩
  · rw [Region.lengths_foldl_applyWrite, offers.sized]
  · exact Bulk.flatten_foldl_scatterFrom offers.sized segments data

theorem accept_lengths (offers : regions.Offers buffer contents) (few : buffer.count ≤ 2 ^ 32)
    (small : buffer.capacity < 2 ^ 64) (build : Build) {items : List Bytes}
    (room : (Bulk.packLengths items).length ≤ buffer.capacity) :
    ∃ after now, regions.accept? (Transfer.lengths build buffer items) = some after ∧
      after.Offers buffer now ∧
      now.flatten = Bytes.overwrite contents.flatten (Bulk.packLengths items) := by
  obtain ⟨total, summed, counts⟩ := Descriptor.total_of_lt small build
  simp only [Transfer.lengths, summed, counts, Nat.not_lt.mpr room, if_false]
  split
  · rename_i empty
    refine ⟨regions, contents, rfl, offers, ?_⟩
    rw [List.isEmpty_iff.mp empty, Bytes.overwrite_nil]
  · obtain ⟨after, now, pushed, kept, joined⟩ := offers.push_scatter few (Bulk.packLengths items)
    refine ⟨after, now, ?_, kept, joined⟩
    simp only [accept?, pushed]

end Offers

end Regions

/-- Data scattered over a region that has room for it is gathered from it again, however the region
is cut into segments. The writes are numbered from zero, none is longer than its segment, and
together they are the data. They are accepted where the region is live and may be written into; then
its segments joined begin with the data and go on as before. So the lengths of items, packed into a
region with room for them, are unpacked from it. -/
theorem scattered_data_gathers {buffer : Descriptor} (few : buffer.count ≤ 2 ^ 32) :
    (∀ data : Bytes, data.length ≤ buffer.capacity →
      let writes := Bulk.scatter data buffer.sizes
      writes.map (fun write => write.index.toNat) = List.range writes.length ∧
      (∀ write ∈ writes, ∃ size, buffer.sizes[write.index.toNat]? = some size ∧
        write.data.length ≤ size.toNat) ∧
      writes.flatMap SegmentWrite.data = data ∧
      ∀ regions contents, Regions.Offers buffer contents regions → ∃ after now,
        regions.push buffer.region writes = .ok after ∧ after.Offers buffer now ∧
          now.flatten = data ++ contents.flatten.drop data.length) ∧
    ∀ items : List Bytes, (∀ item ∈ items, item.length < 2 ^ 64) → buffer.capacity < 2 ^ 64 →
      8 * items.length ≤ buffer.capacity →
      ∀ build regions contents, Regions.Offers buffer contents regions → ∃ after now,
        regions.accept? (Transfer.lengths build buffer items) = some after ∧
          after.Offers buffer now ∧
          Bulk.unpackLengths items.length now.flatten = items.map List.length := by
  constructor
  · intro data room writes
    have gathered : writes.flatMap SegmentWrite.data = data :=
      (Bulk.data_scatterFrom 0 data buffer.sizes).trans (List.take_of_length_le room)
    refine ⟨Bulk.index_scatter few data, (Descriptor.covers_scatter few data).within, gathered, ?_⟩
    intro regions contents offers
    obtain ⟨after, now, pushed, kept, joined⟩ := offers.push_scatter few data
    have fits : data.length ≤ contents.flatten.length := by rwa [offers.length_flatten]
    exact ⟨after, now, pushed, kept, joined.trans (Bytes.overwrite_eq_append fits)⟩
  · intro items counts small room build regions contents offers
    have packed : (Bulk.packLengths items).length ≤ buffer.capacity := by
      rw [Bulk.length_packLengths, Nat.mul_comm]
      exact room
    obtain ⟨after, now, accepted, kept, joined⟩ := offers.accept_lengths few small build packed
    have fits : (Bulk.packLengths items).length ≤ contents.flatten.length := by
      rwa [offers.length_flatten]
    rw [Bytes.overwrite_eq_append fits] at joined
    refine ⟨after, now, accepted, kept, ?_⟩
    rw [joined]
    exact Bulk.unpackLengths_packLengths counts _

/-- Two lengths in segments of three, no, seven and nine bytes: both are cut. -/
theorem scattered_data_gathers_cut :
    let buffer : Descriptor := ⟨1, .writeOnly, [3, 0, 7, 9]⟩
    let contents := [[5, 5, 5], [], Bytes.zeros 7, Bytes.zeros 9]
    let regions : Regions := ⟨2, [⟨1, .writeOnly, contents.map Buffer.ofBytes⟩]⟩
    buffer.count ≤ 2 ^ 32 ∧ regions.Offers buffer contents ∧ ∃ after now,
      regions.accept? (Transfer.lengths .debug buffer [[1, 2], [3]]) = some after ∧
        after.Offers buffer now ∧ Bulk.unpackLengths 2 now.flatten = [2, 1] := by
  intro buffer contents regions
  have few : buffer.count ≤ 2 ^ 32 := by decide
  have offers : regions.Offers buffer contents :=
    ⟨⟨_, rfl, rfl, rfl⟩, rfl, rfl⟩
  exact ⟨few, offers, (scattered_data_gathers few).2 [[1, 2], [3]] (by decide) (by decide)
    (by decide) .debug regions contents offers⟩

end KeyDepot
