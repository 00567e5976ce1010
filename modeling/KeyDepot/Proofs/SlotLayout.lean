import KeyDepot.Proofs.RegionAccess
import KeyDepot.Storage.Entries

namespace KeyDepot

namespace Bulk

/-- Every item is within its slot. -/
def Fit (items slots : List Bytes) : Prop :=
  ∀ pair ∈ items.zip slots, pair.1.length ≤ pair.2.length

instance (items slots : List Bytes) : Decidable (Fit items slots) :=
  inferInstanceAs (Decidable (∀ pair ∈ items.zip slots, pair.1.length ≤ pair.2.length))

/-- The slots with the items in the first of them. -/
def place (items slots : List Bytes) : List Bytes :=
  items ++ slots.drop items.length

/-- As many zero bytes as there are bytes in each of these. -/
def blanks (slots : List Bytes) : List Bytes :=
  slots.map fun slot => Bytes.zeros slot.length

/-- Segments whose beginnings are replaced by the items. -/
def overlay (items segments : List Bytes) : List Bytes :=
  List.zipWith Bytes.overwrite segments items ++ segments.drop items.length

variable {items slots segments : List Bytes}

@[simp] theorem fit_nil (slots : List Bytes) : Fit [] slots := by
  simp [Fit]

@[simp] theorem fit_cons {item slot : Bytes} :
    Fit (item :: items) (slot :: slots) ↔ item.length ≤ slot.length ∧ Fit items slots := by
  simp [Fit]

@[simp] theorem blanks_nil : blanks [] = [] := rfl

@[simp] theorem length_blanks (slots : List Bytes) : (blanks slots).length = slots.length := by
  simp [blanks]

@[simp] theorem overlay_nil (segments : List Bytes) : overlay [] segments = segments := by
  simp [overlay]

theorem fit_blanks : Fit items (blanks slots) ↔ Fit items slots := by
  induction items generalizing slots with
  | nil => simp
  | cons item items ih =>
    cases slots with
    | nil => simp [Fit, blanks]
    | cons slot slots =>
      have rest := @ih slots
      simp only [blanks] at rest
      simp [blanks, rest]

theorem fit_place_blanks (items slots : List Bytes) : Fit items (place (blanks items) slots) := by
  induction items generalizing slots with
  | nil => simp
  | cons item items ih =>
    have rest := ih (slots.drop 1)
    simp only [place, blanks, List.length_map, List.drop_drop] at rest ⊢
    simp only [List.map_cons, List.cons_append, List.length_cons, fit_cons, Bytes.length_zeros]
    rw [Nat.add_comm] at rest
    exact ⟨Nat.le_refl _, rest⟩

theorem place_place {others : List Bytes} (same : others.length = items.length) :
    place items (place others slots) = place items slots := by
  simp [place, ← same]

theorem length_place (few : items.length ≤ slots.length) :
    (place items slots).length = slots.length := by
  simp only [place, List.length_append, List.length_drop]
  omega

theorem length_le_of_mem_place {bound : Nat} (short : ∀ item ∈ items, item.length ≤ bound)
    (shortSlots : ∀ slot ∈ slots, slot.length ≤ bound) :
    ∀ slot ∈ place (blanks items) slots, slot.length ≤ bound := by
  intro slot member
  rcases List.mem_append.mp member with blank | kept
  · obtain ⟨item, there, rfl⟩ := List.mem_map.mp blank
    simpa using short item there
  · exact shortSlots slot (List.mem_of_mem_drop kept)

theorem exceedsSlots_eq (counts : ∀ slot ∈ slots, slot.length < 2 ^ 64) :
    exceedsSlots items (slots.map fun slot => UInt64.ofNat slot.length) =
      !decide (Fit items slots) := by
  induction items generalizing slots with
  | nil => simp [exceedsSlots]
  | cons item items ih =>
    cases slots with
    | nil => simp [exceedsSlots, Fit]
    | cons slot slots =>
      have first : (UInt64.ofNat slot.length).toNat = slot.length :=
        UInt64.toNat_ofNat_of_lt' (counts slot (List.mem_cons_self ..))
      have rest := ih fun other member => counts other (List.mem_cons_of_mem slot member)
      simp only [exceedsSlots] at rest
      simp only [exceedsSlots, List.map_cons, List.zip_cons_cons, List.any_cons, first, rest,
        fit_cons, Bool.decide_and, Bool.not_and, ← decide_not, Nat.not_le]

/-! Writing items into segments. -/

theorem applyWrite_append (front : List Bytes) (segment : Bytes) (rest : List Bytes)
    (item : Bytes) (small : front.length < 2 ^ 32) :
    Region.applyWrite (front ++ segment :: rest) ⟨UInt32.ofNat front.length, item⟩ =
      (front ++ [segment.overwrite item]) ++ rest := by
  have index : (UInt32.ofNat front.length).toNat = front.length :=
    UInt32.toNat_ofNat_of_lt' small
  rw [Region.applyWrite, index, List.modify_eq_take_cons_drop (by simp)]
  simp

theorem foldl_writes (front : List Bytes) (few : items.length ≤ segments.length)
    (small : front.length + items.length ≤ 2 ^ 32) :
    (items.mapIdx fun index item => ⟨UInt32.ofNat (front.length + index), item⟩).foldl
        Region.applyWrite (front ++ segments) = front ++ overlay items segments := by
  induction items generalizing front segments with
  | nil => simp [overlay]
  | cons item items ih =>
    cases segments with
    | nil => simp at few
    | cons segment segments =>
      simp only [List.length_cons] at few small
      have rest := ih (front ++ [segment.overwrite item]) (Nat.le_of_succ_le_succ few)
        (by simp; omega)
      simp only [List.length_append, List.length_singleton, Nat.add_assoc, Nat.add_comm 1] at rest
      simp only [List.mapIdx_cons, List.foldl_cons, Nat.add_zero]
      rw [applyWrite_append front segment segments item (by omega), rest]
      simp [overlay]

theorem foldl_slotWrites (few : items.length ≤ segments.length) (small : items.length ≤ 2 ^ 32) :
    (slotWrites items).foldl Region.applyWrite segments = overlay items segments := by
  simpa [slotWrites] using foldl_writes [] few (by simpa using small)

theorem slotWrites_fits (fit : Fit items segments) (few : items.length ≤ segments.length)
    (small : items.length ≤ 2 ^ 32) :
    ∀ write ∈ slotWrites items, Region.Fits segments write := by
  intro write member
  obtain ⟨index, within, rfl⟩ := List.mem_mapIdx.mp member
  have number : (UInt32.ofNat index).toNat = index := by
    simp only [UInt32.toNat_ofNat']
    omega
  have there : index < segments.length := by omega
  refine ⟨segments[index], by simp [number, there], fit (items[index], segments[index]) ?_⟩
  exact List.mem_iff_getElem.mpr ⟨index, by rw [List.length_zip]; omega, by simp⟩

/-! Packing lengths. -/

@[simp] theorem length_packLengths (items : List Bytes) :
    (packLengths items).length = items.length * lengthWidth := by
  induction items with
  | nil => simp [packLengths]
  | cons item items ih =>
    simp only [packLengths] at ih
    simp only [packLengths, List.flatMap_cons, List.length_append, Bytes.length_little, ih,
      List.length_cons, Nat.succ_mul]
    omega

theorem unpackLengths_nil (count : Nat) : unpackLengths count [] = [] := by
  cases count <;> simp [unpackLengths, Bytes.splitExact?, lengthWidth]

theorem unpackLengths_packLengths (counts : ∀ item ∈ items, item.length < 2 ^ 64) (rest : Bytes) :
    unpackLengths items.length (packLengths items ++ rest) = items.map List.length := by
  induction items with
  | nil => simp [unpackLengths]
  | cons item items ih =>
    have others := ih fun other member => counts other (by simp [member])
    have width : item.length < 256 ^ lengthWidth := counts item (by simp)
    simp only [packLengths] at others
    simp only [packLengths, List.flatMap_cons, List.append_assoc, List.length_cons, unpackLengths,
      Bytes.splitExact?_append _ _ (Bytes.length_little lengthWidth item.length), others,
      Bytes.littleValue_little lengthWidth item.length width, List.map_cons]

/-- The lengths of at most `count` items are read back from the room for `count` lengths. -/
theorem unpackLengths_overwrite (counts : ∀ item ∈ items, item.length < 2 ^ 64) {room : Nat}
    (few : items.length ≤ room) :
    unpackLengths items.length
        [(Bytes.zeros (room * lengthWidth)).overwrite (packLengths items)].flatten =
      items.map List.length := by
  have fits : (packLengths items).length ≤ (Bytes.zeros (room * lengthWidth)).length := by
    rw [length_packLengths, Bytes.length_zeros]
    exact Nat.mul_le_mul_right lengthWidth few
  simp only [List.flatten_cons, List.flatten_nil, List.append_nil,
    Bytes.overwrite_eq_append fits]
  exact unpackLengths_packLengths counts _

end Bulk

namespace Slots

open Bulk

/-- Every item is within its slot, among the keys and among the values. -/
def Fit (items slots : Slots) : Prop :=
  Bulk.Fit items.keys slots.keys ∧ Bulk.Fit items.values slots.values

instance (items slots : Slots) : Decidable (items.Fit slots) :=
  inferInstanceAs (Decidable (_ ∧ _))

/-- There are no more items than slots. -/
def Within (items slots : Slots) : Prop :=
  items.keys.length ≤ slots.keys.length ∧ items.values.length ≤ slots.values.length

/-- The length of every slot is one that a sequence can have. -/
def Counted (slots : Slots) : Prop :=
  (∀ slot ∈ slots.keys, slot.length ≤ Bytes.maxLength) ∧
    ∀ slot ∈ slots.values, slot.length ≤ Bytes.maxLength

/-- Slots that can be there: no longer than a sequence can be, and no more of them than a sequence
can have members. -/
structure Held (slots : Slots) : Prop where
  counted : slots.Counted
  keys : slots.keys.length * Bytes.memberSize ≤ Bytes.maxLength
  values : slots.values.length * Bytes.memberSize ≤ Bytes.maxLength

/-- The slots with the items in the first of them. -/
def place (items slots : Slots) : Slots :=
  { keys := Bulk.place items.keys slots.keys, values := Bulk.place items.values slots.values }

/-- As many zero bytes as there are bytes in each of these. -/
def blanks (items : Slots) : Slots :=
  { keys := Bulk.blanks items.keys, values := Bulk.blanks items.values }

/-- Entries as the items of a listing of keys with their values. -/
def ofEntries (entries : List Entry) : Slots :=
  { keys := entries.map Entry.key, values := entries.map Entry.value }

/-- What a listing of these items comes to with these slots. -/
def receive (items slots : Slots) : Except Error Nat × Slots :=
  if items.Fit slots then (.ok items.keys.length, items.place slots)
  else (.error (.remote .truncated), items.blanks.place slots)

/-- There are as many slots after a listing that did not fit as before it. -/
theorem length_place_blanks {items slots : Slots} (within : items.Within slots) :
    (items.blanks.place slots).keys.length = slots.keys.length ∧
      (items.blanks.place slots).values.length = slots.values.length := by
  constructor
  · exact length_place (by simpa [blanks] using within.1)
  · exact length_place (by simpa [blanks] using within.2)

theorem Held.place_blanks {items slots : Slots} (held : slots.Held) (counts : items.Counted)
    (within : items.Within slots) : (items.blanks.place slots).Held := by
  obtain ⟨keys, values⟩ := length_place_blanks within
  exact ⟨⟨length_le_of_mem_place counts.1 held.counted.1,
    length_le_of_mem_place counts.2 held.counted.2⟩, keys ▸ held.keys, values ▸ held.values⟩

theorem Counted.words {slots : Slots} (counted : slots.Counted) :
    (∀ slot ∈ slots.keys, slot.length < 2 ^ 64) ∧ ∀ slot ∈ slots.values, slot.length < 2 ^ 64 :=
  ⟨fun slot member => Bytes.lt_of_le_maxLength (counted.1 slot member),
    fun slot member => Bytes.lt_of_le_maxLength (counted.2 slot member)⟩

theorem receive_place_blanks (items slots : Slots) :
    items.receive (items.blanks.place slots) = (.ok items.keys.length, items.place slots) := by
  have fit : items.Fit (items.blanks.place slots) := ⟨fit_place_blanks _ _, fit_place_blanks _ _⟩
  have same : items.place (items.blanks.place slots) = items.place slots := by
    simp only [place, blanks, place_place (length_blanks _)]
  rw [receive, if_pos fit, same]

theorem exceedsSlots_eq {slots : Slots} (counted : slots.Counted) (items : Slots) :
    (exceedsSlots items.keys (slots.keys.map fun slot => UInt64.ofNat slot.length) ||
      exceedsSlots items.values (slots.values.map fun slot => UInt64.ofNat slot.length)) =
        !decide (items.Fit slots) := by
  rw [Bulk.exceedsSlots_eq counted.words.1, Bulk.exceedsSlots_eq counted.words.2, ← Bool.not_and,
    ← Bool.decide_and]
  rfl

section Columns

variable {items slots : List Bytes}

/-- Items that were written into segments of the lengths of the slots are read into the slots, and
the slots after them stay as they are. -/
theorem fill_overlay (fit : Bulk.Fit items slots) (few : items.length ≤ slots.length)
    (index : Nat) :
    fill index slots (overlay items (Bulk.blanks slots)) (items.map List.length) =
      (Bulk.place items slots, none) := by
  induction items generalizing slots index with
  | nil => cases slots <;> simp [fill, Bulk.place]
  | cons item items ih =>
    cases slots with
    | nil => simp at few
    | cons slot slots =>
      obtain ⟨within, fit⟩ := fit_cons.mp fit
      have rest := ih fit (Nat.le_of_succ_le_succ few) (index + 1)
      have room : item.length ≤ (Bytes.zeros slot.length).length := by simpa using within
      simp only [overlay, Bulk.blanks] at rest
      simp [fill, overlay, Bulk.blanks, rest, Bulk.place, Nat.not_lt.mpr within,
        Bytes.take_overwrite room]

/-- When the items did not fit, each slot of an item becomes as long as the item. -/
theorem resize_blanks (few : items.length ≤ slots.length)
    (short : ∀ item ∈ items, item.length ≤ Bytes.maxLength) :
    resize slots (items.map List.length) = .ok (Bulk.place (Bulk.blanks items) slots) := by
  induction items generalizing slots with
  | nil => cases slots <;> rfl
  | cons item items ih =>
    cases slots with
    | nil => simp at few
    | cons slot slots =>
      obtain ⟨first, others⟩ := List.forall_mem_cons.mp short
      have rest := ih (Nat.le_of_succ_le_succ few) others
      simp only [List.map_cons, resize, Bytes.allocate_of_le first, rest, bind, Except.bind]
      rfl

end Columns

/-- What came back of a listing is read as the items when they were written, and as the lengths
that the items need when they were not. -/
theorem readListing_receive {items slots : Slots} {keyLengths valueLengths : List Bytes}
    (counts : items.keys.length < 2 ^ 64) (counted : items.Counted) (within : items.Within slots)
    (keys : unpackLengths items.keys.length keyLengths.flatten = items.keys.map List.length)
    (values : unpackLengths items.keys.length valueLengths.flatten =
      items.values.map List.length) :
    Call.readListing slots
        (if items.Fit slots then overlay items.keys (Bulk.blanks slots.keys)
          else Bulk.blanks slots.keys) keyLengths
        (if items.Fit slots then overlay items.values (Bulk.blanks slots.values)
          else Bulk.blanks slots.values) valueLengths
        (.listed (if items.Fit slots then .ok else .truncated)
          (UInt64.ofNat items.keys.length)) = .ok (items.receive slots) := by
  have count : min (UInt64.ofNat items.keys.length).toNat slots.keys.length =
      items.keys.length := by
    rw [UInt64.toNat_ofNat_of_lt' counts, Nat.min_eq_left within.1]
  by_cases fit : items.Fit slots
  · simp only [Call.readListing, receive, if_pos fit, count, keys, values,
      fill_overlay fit.1 within.1, fill_overlay fit.2 within.2, place]
    rfl
  · simp only [Call.readListing, receive, if_neg fit, count, keys, values,
      resize_blanks within.1 counted.1, resize_blanks within.2 counted.2, place, blanks, bind,
      Except.bind]
    rfl

end Slots

end KeyDepot
