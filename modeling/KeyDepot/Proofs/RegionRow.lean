import KeyDepot.Proofs.CallTalk
import KeyDepot.Proofs.Capacities
import KeyDepot.Proofs.SlotLayout

/-! Regions in a row: those a call exposes one after the other for the server to write into. Their
contents are addressed by place, so that a transfer into one of them is the replacement of one
element, and what a listing transfers is followed element by element. -/

namespace KeyDepot

open Bulk

namespace Regions

/-- The live regions are numbered on from `first`, the server may write into each, and these are
their contents. -/
structure Row (first : Nat) (contents : List (List Bytes)) (regions : Regions) : Prop where
  held : ∀ place segments, contents[place]? = some segments →
    regions.Holds (UInt64.ofNat (first + place)) .writeOnly segments
  only : ∀ id ∈ regions.ids, ∃ place < contents.length, id = UInt64.ofNat (first + place)

theorem number_ne (first : Nat) {place other : Nat} (apart : place ≠ other)
    (small : place < 2 ^ 64) (otherSmall : other < 2 ^ 64) :
    UInt64.ofNat (first + place) ≠ UInt64.ofNat (first + other) := by
  intro same
  have numbers := congrArg UInt64.toNat same
  simp only [UInt64.toNat_ofNat'] at numbers
  omega

/-- What the regions of a row come to. -/
def grants (first : Nat) (contents : List (List Bytes)) : List Grant :=
  contents.mapIdx fun place segments => ⟨UInt64.ofNat (first + place), .writeOnly, segments⟩

theorem contents_grants (first : Nat) (contents : List (List Bytes)) :
    (grants first contents).map Grant.contents = contents := by
  apply List.ext_getElem?
  intro place
  simp [grants, Function.comp_def]

theorem nodup_grants (first : Nat) {contents : List (List Bytes)}
    (few : contents.length ≤ 2 ^ 64) : ((grants first contents).map Grant.id).Nodup := by
  apply List.pairwise_iff_getElem.mpr
  intro place other within otherWithin before
  simp only [grants, List.length_map, List.length_mapIdx] at within otherWithin
  simp only [grants, List.getElem_map, List.getElem_mapIdx]
  exact number_ne first (Nat.ne_of_lt before) (by omega) (by omega)

variable {first : Nat} {contents : List (List Bytes)} {regions : Regions}

theorem Row.of_clear (first : Nat) (clear : regions.ids = []) : regions.Row first [] :=
  ⟨by simp, by simp [clear]⟩

theorem Row.held_grants (row : regions.Row first contents) :
    ∀ grant ∈ grants first contents, regions.Holds grant.id grant.access grant.contents := by
  intro grant member
  obtain ⟨place, within, rfl⟩ := List.mem_mapIdx.mp member
  exact row.held place contents[place] (List.getElem?_eq_getElem within)

theorem Row.only_grants (row : regions.Row first contents) :
    ∀ id ∈ regions.ids, id ∈ (grants first contents).map Grant.id := by
  intro id live
  obtain ⟨place, within, rfl⟩ := row.only id live
  exact List.mem_map.mpr ⟨_, List.mem_mapIdx.mpr ⟨place, within, rfl⟩, rfl⟩

theorem Row.push (row : regions.Row first contents) (few : contents.length ≤ 2 ^ 64) {place : Nat}
    {segments : List Bytes} (there : contents[place]? = some segments)
    {writes : List SegmentWrite} (fits : ∀ write ∈ writes, Region.Fits segments write) :
    ∃ after, regions.push (UInt64.ofNat (first + place)) writes = .ok after ∧
      after.Row first (contents.set place (writes.foldl Region.applyWrite segments)) := by
  obtain ⟨after, pushed, held, ids, others⟩ := (row.held place segments there).push rfl fits
  obtain ⟨within, -⟩ := List.getElem?_eq_some_iff.mp there
  refine ⟨after, pushed, ?_, by simpa [ids] using row.only⟩
  intro other kept found
  by_cases same : place = other
  · subst same
    rw [List.getElem?_set_self within] at found
    obtain rfl := Option.some.inj found
    exact held
  · rw [List.getElem?_set_ne same] at found
    obtain ⟨otherWithin, -⟩ := List.getElem?_eq_some_iff.mp found
    exact others _ _ _ (number_ne first (Ne.symm same) (by omega) (by omega))
      (row.held other kept found)

theorem accept?_append (front back : List Transfer) (regions : Regions) :
    regions.accept? (front ++ back) =
      (regions.accept? front).bind fun between => between.accept? back := by
  induction front generalizing regions with
  | nil => rfl
  | cons transfer front ih =>
    cases transfer with
    | refuse cause => rfl
    | stop cause => rfl
    | push region writes =>
      simp only [List.cons_append, accept?]
      cases regions.push region writes with
      | error fault => rfl
      | ok changed => exact ih changed

end Regions

/-- Slots as a listing describes them. -/
def slotRegion (number : Nat) (slots : List Bytes) : Descriptor :=
  ⟨UInt64.ofNat number, .writeOnly, slots.map fun slot => UInt64.ofNat slot.length⟩

/-- The room for the lengths of so many items, as a listing describes it. -/
def lengthRegion (number count : Nat) : Descriptor :=
  ⟨UInt64.ofNat number, .writeOnly, [UInt64.ofNat (count * lengthWidth)]⟩

namespace Regions.Row

variable {first : Nat} {contents : List (List Bytes)} {regions : Regions}
  {items slots : List Bytes}

/-- The lengths of items are packed into the room for them. -/
theorem accept_lengths (row : regions.Row first contents) (build : Build) (place : Nat)
    (few : contents.length ≤ 2 ^ 64) {count : Nat}
    (there : contents[place]? = some [Bytes.zeros (count * lengthWidth)])
    (within : items.length ≤ count) (counts : count * lengthWidth < 2 ^ 64) :
    ∃ after,
      regions.accept? (Transfer.lengths build (lengthRegion (first + place) count) items) =
        some after ∧
      after.Row first (contents.set place
        [(Bytes.zeros (count * lengthWidth)).overwrite (packLengths items)]) := by
  have size : (UInt64.ofNat (count * lengthWidth)).toNat = count * lengthWidth :=
    UInt64.toNat_ofNat_of_lt' counts
  have fits : (packLengths items).length ≤ count * lengthWidth := by
    rw [length_packLengths]
    exact Nat.mul_le_mul_right lengthWidth within
  have whole : (lengthRegion (first + place) count).total build =
      .ok (UInt64.ofNat (count * lengthWidth)) := Descriptor.total_single ..
  simp only [Transfer.lengths, whole, size, if_neg (Nat.not_lt.mpr fits)]
  split
  · rename_i empty
    obtain ⟨_, same⟩ := List.getElem?_eq_some_iff.mp there
    refine ⟨regions, rfl, ?_⟩
    rwa [List.isEmpty_iff.mp empty, Bytes.overwrite_nil, ← same, List.set_getElem_self]
  · have width : (Bytes.zeros (count * lengthWidth)).length = count * lengthWidth :=
      Bytes.length_zeros _
    obtain ⟨writes, filled⟩ := scatter_single (width.trans size.symm) (width.symm ▸ fits)
    obtain ⟨after, pushed, changed⟩ := row.push few there writes
    rw [filled] at changed
    refine ⟨after, ?_, changed⟩
    simp only [accept?, lengthRegion, pushed]

theorem accept_slots (row : regions.Row first contents) (place : Nat)
    (few : contents.length ≤ 2 ^ 64) (there : contents[place]? = some (blanks slots))
    (fit : Fit items slots)
    (within : items.length ≤ slots.length) (small : items.length ≤ 2 ^ 32) :
    ∃ after, regions.accept? (Transfer.slots (slotRegion (first + place) slots) items) =
        some after ∧
      after.Row first (contents.set place (overlay items (blanks slots))) := by
  have room : items.length ≤ (blanks slots).length := by rwa [length_blanks]
  simp only [Transfer.slots]
  split
  · rename_i empty
    obtain ⟨_, same⟩ := List.getElem?_eq_some_iff.mp there
    refine ⟨regions, rfl, ?_⟩
    rwa [List.isEmpty_iff.mp empty, overlay_nil, ← same, List.set_getElem_self]
  · obtain ⟨after, pushed, changed⟩ :=
      row.push few there (slotWrites_fits (fit_blanks.mpr fit) room small)
    rw [foldl_slotWrites room small] at changed
    refine ⟨after, ?_, changed⟩
    simp only [accept?, slotRegion, pushed]

end Regions.Row

namespace Client

/-- A client that has exposed a row of regions and goes on numbering after it. -/
structure Rows (first : Nat) (contents : List (List Bytes)) (settings : Settings)
    (client : Client) : Prop where
  row : client.regions.Row first contents
  next : client.regions.next = first + contents.length
  settings : client.settings = settings

variable {first : Nat} {contents : List (List Bytes)} {settings : Settings} {client : Client}

/-- One more region of fresh buffers goes to the end of the row. -/
theorem Rows.exposed (rows : client.Rows first contents settings)
    (few : contents.length < 2 ^ 64) {lengths : List Nat} {region : Region} {after : Client}
    (exposed : client.exposeFresh lengths = .ok (region, after)) :
    region.descriptor =
        ⟨UInt64.ofNat (first + contents.length), .writeOnly, lengths.map UInt64.ofNat⟩ ∧
      after.Rows first (contents ++ [lengths.map Bytes.zeros]) settings := by
  have exposes := exposeFresh_exposes exposed
  have number := exposes.number
  have descriptor := exposes.descriptor
  rw [rows.next] at number descriptor
  refine ⟨by simp [descriptor, Function.comp_def], ⟨?_, ?_⟩, ?_,
    exposes.settings.trans rows.settings⟩
  · intro place segments found
    rcases Nat.lt_trichotomy place contents.length with before | rfl | beyond
    · rw [List.getElem?_append_left before] at found
      refine exposes.others _ _ _ ?_ (rows.row.held place segments found)
      rw [number]
      exact Regions.number_ne first (Nat.ne_of_lt before) (Nat.lt_trans before few) few
    · rw [List.getElem?_concat_length] at found
      obtain rfl := Option.some.inj found
      rw [← number]
      exact exposes.held
    · rw [List.getElem?_eq_none (by simp; omega)] at found
      cases found
  · intro id live
    rw [exposes.ids] at live
    rcases List.mem_cons.mp live with rfl | old
    · exact ⟨contents.length, by simp, number⟩
    · obtain ⟨place, within, same⟩ := rows.row.only id old
      exact ⟨place, by simp; omega, same⟩
  · rw [exposes.next, rows.next, List.length_append, List.length_singleton, Nat.add_assoc]

/-- Slots and the room for the lengths of their items go to the end of the row. -/
theorem Rows.exposedSlots (rows : client.Rows first contents settings)
    (few : contents.length + 1 < 2 ^ 64) {slots : List Bytes} {items lengths : Region}
    {after : Client} (exposed : client.exposeSlots slots = .ok (items, lengths, after)) :
    items.descriptor = slotRegion (first + contents.length) slots ∧
      lengths.descriptor = lengthRegion (first + (contents.length + 1)) slots.length ∧
      after.Rows first
        (contents ++ [blanks slots, [Bytes.zeros (slots.length * lengthWidth)]]) settings := by
  obtain ⟨⟨_, between⟩, one, rest⟩ := bind_eq_ok_iff.mp exposed
  obtain ⟨⟨_, last⟩, two, same⟩ := bind_eq_ok_iff.mp rest
  cases same
  obtain ⟨described, row⟩ := rows.exposed (by omega) one
  obtain ⟨measured, both⟩ := row.exposed (by simpa using few) two
  refine ⟨described.trans ?_, measured.trans ?_, ?_⟩
  · simp [slotRegion]
  · simp [lengthRegion]
  · rw [List.append_assoc, List.map_map] at both
    exact both

theorem exposeSlots_of_le (client : Client) {slots : List Bytes}
    (short : ∀ slot ∈ slots, slot.length ≤ Bytes.maxLength)
    (many : slots.length * Bytes.memberSize ≤ Bytes.maxLength) :
    ∃ items lengths after, client.exposeSlots slots = .ok (items, lengths, after) := by
  have room : slots.length * lengthWidth ≤ Bytes.maxLength :=
    (Nat.mul_le_mul_left slots.length (by decide)).trans many
  obtain ⟨items, between, exposed, -⟩ :=
    client.exposeFresh_of_le (List.forall_mem_map.mpr short)
  obtain ⟨lengths, after, sized, -⟩ :=
    between.exposeFresh_of_le (List.forall_mem_singleton.mpr room)
  refine ⟨items, lengths, after, ?_⟩
  simp only [Client.exposeSlots, exposed, sized, bind, Except.bind]
  rfl

theorem Rows.of_clear (clear : client.regions.ids = []) :
    client.Rows client.regions.next [] client.settings :=
  ⟨.of_clear _ clear, rfl, rfl⟩

theorem staged_listKeys (clear : client.regions.ids = []) {id : DatabaseId} {start stem : Bytes}
    {slots : List Bytes} {staged : Staged} {after : Client}
    (prepared : client.stage (.listKeys id start stem slots) = .ok (staged, after)) :
    staged = ⟨.listKeys id start stem (UInt64.ofNat slots.length)
        (slotRegion (client.regions.next + 0) slots)
        (lengthRegion (client.regions.next + 1) slots.length),
      [UInt64.ofNat (client.regions.next + 0), UInt64.ofNat (client.regions.next + 1)]⟩ ∧
      after.Rows client.regions.next [blanks slots, [Bytes.zeros (slots.length * lengthWidth)]]
        client.settings := by
  obtain ⟨⟨keys, keySizes, last⟩, exposed, same⟩ := bind_eq_ok_iff.mp prepared
  obtain ⟨rfl, rfl⟩ := Prod.mk.inj (Except.ok.inj same)
  obtain ⟨keysNamed, sizesNamed, rows⟩ :=
    (Rows.of_clear clear).exposedSlots (by decide) exposed
  have keysNumber : keys.id = _ := congrArg Descriptor.region keysNamed
  have sizesNumber : keySizes.id = _ := congrArg Descriptor.region sizesNamed
  exact ⟨by rw [keysNamed, sizesNamed, keysNumber, sizesNumber]; rfl, rows⟩

/-- What a listing of keys with their values is sent with. -/
theorem staged_listPairs (clear : client.regions.ids = []) {id : DatabaseId} {start stem : Bytes}
    {slots valueSlots : List Bytes} {staged : Staged} {after : Client}
    (prepared : client.stage (.listPairs id start stem slots valueSlots) = .ok (staged, after)) :
    staged = ⟨.listPairs id start stem (UInt64.ofNat slots.length)
        (slotRegion (client.regions.next + 0) slots)
        (lengthRegion (client.regions.next + 1) slots.length)
        (slotRegion (client.regions.next + 2) valueSlots)
        (lengthRegion (client.regions.next + 3) valueSlots.length),
      [UInt64.ofNat (client.regions.next + 0), UInt64.ofNat (client.regions.next + 1),
        UInt64.ofNat (client.regions.next + 2), UInt64.ofNat (client.regions.next + 3)]⟩ ∧
      after.Rows client.regions.next [blanks slots, [Bytes.zeros (slots.length * lengthWidth)],
        blanks valueSlots, [Bytes.zeros (valueSlots.length * lengthWidth)]] client.settings := by
  obtain ⟨⟨keys, keySizes, between⟩, exposed, rest⟩ := bind_eq_ok_iff.mp prepared
  obtain ⟨⟨values, valueSizes, last⟩, exposedValues, same⟩ := bind_eq_ok_iff.mp rest
  obtain ⟨rfl, rfl⟩ := Prod.mk.inj (Except.ok.inj same)
  obtain ⟨keysNamed, sizesNamed, rows⟩ :=
    (Rows.of_clear clear).exposedSlots (by decide) exposed
  obtain ⟨valuesNamed, valueSizesNamed, all⟩ := rows.exposedSlots (by simp) exposedValues
  have keysNumber : keys.id = _ := congrArg Descriptor.region keysNamed
  have sizesNumber : keySizes.id = _ := congrArg Descriptor.region sizesNamed
  have valuesNumber : values.id = _ := congrArg Descriptor.region valuesNamed
  have valueSizesNumber : valueSizes.id = _ := congrArg Descriptor.region valueSizesNamed
  refine ⟨?_, all⟩
  rw [keysNamed, sizesNamed, valuesNamed, valueSizesNamed, keysNumber, sizesNumber, valuesNumber,
    valueSizesNumber]
  rfl

theorem stage_listKeys_of_held (client : Client) {slots : List Bytes}
    (held : Slots.Held { keys := slots }) (id : DatabaseId) (start stem : Bytes) :
    ∃ staged after, client.stage (.listKeys id start stem slots) = .ok (staged, after) := by
  obtain ⟨keys, keySizes, after, exposed⟩ := client.exposeSlots_of_le held.counted.1 held.keys
  exact ⟨_, _, by simp only [stage, exposed, bind, Except.bind]; rfl⟩

theorem stage_listPairs_of_held (client : Client) {slots : Slots} (held : slots.Held)
    (id : DatabaseId) (start stem : Bytes) :
    ∃ staged after,
      client.stage (.listPairs id start stem slots.keys slots.values) = .ok (staged, after) := by
  obtain ⟨keys, keySizes, between, exposed⟩ := client.exposeSlots_of_le held.counted.1 held.keys
  obtain ⟨values, valueSizes, after, exposedValues⟩ :=
    between.exposeSlots_of_le held.counted.2 held.values
  exact ⟨_, _, by simp only [stage, exposed, exposedValues, bind, Except.bind]; rfl⟩

end Client

end KeyDepot
