import Mathlib.Algebra.Order.Ring.Nat
import KeyDepot.Wire.Framing

namespace KeyDepot

namespace Bytes

theorem littleValue_little (width value : Nat) (fits : value < 256 ^ width) :
    littleValue (little width value) = value := by
  induction width generalizing value with
  | zero =>
    have : value = 0 := by simpa using fits
    simp [little, littleValue, this]
  | succ width ih =>
    have smaller : value / 256 < 256 ^ width := by
      apply Nat.div_lt_of_lt_mul
      rwa [Nat.pow_succ, Nat.mul_comm] at fits
    simp only [little, littleValue, ih _ smaller, UInt8.toNat_ofNat']
    omega

theorem bigValue_big (width value : Nat) (fits : value < 256 ^ width) :
    bigValue (big width value) = value := by
  rw [bigValue, big, List.reverse_reverse, littleValue_little width value fits]

theorem length_big (width value : Nat) : (big width value).length = width := by
  rw [big, List.length_reverse, length_little]

theorem splitExact?_append {count : Nat} (head rest : Bytes) (width : head.length = count) :
    (head ++ rest).splitExact? count = some (head, rest) := by
  subst width
  simp [splitExact?]

@[simp] theorem length_zeros (count : Nat) : (zeros count).length = count := by
  simp [zeros]

end Bytes

namespace Wire

variable {α β : Type}

theorem readLittle_append {width value : Nat} (fits : value < 256 ^ width) (rest : Bytes) :
    readLittle width (Bytes.little width value ++ rest) = .ok (value, rest) := by
  simp only [readLittle, Bytes.splitExact?_append _ rest (Bytes.length_little width value),
    Bytes.littleValue_little width value fits]

namespace Codec

/-- The reader gives back every value whose form 64 bits can count, and leaves what stands after
it. -/
def Inverted (codec : Codec α) : Prop :=
  ∀ value rest, codec.size value < 2 ^ 64 →
    codec.read (codec.write value ++ rest) = .ok (value, rest)

theorem Inverted.via {codec : Codec α} (inverted : codec.Inverted) {wrap : α → β} {unwrap : β → α}
    (same : ∀ value, wrap (unwrap value) = value) : (codec.via wrap unwrap).Inverted := by
  intro value rest fits
  simp only [Codec.via] at fits ⊢
  rw [inverted (unwrap value) rest fits]
  simp only [same]

theorem Inverted.pair {first : Codec α} {second : Codec β} (left : first.Inverted)
    (right : second.Inverted) : (first.pair second).Inverted := by
  intro value rest fits
  simp only [Codec.pair] at fits ⊢
  rw [List.append_assoc, left value.1 _ (by omega)]
  simp only [right value.2 rest (by omega)]

theorem word8_inverted : word8.Inverted := fun _ _ _ => rfl

theorem word32_inverted : word32.Inverted := by
  intro value rest _
  simp only [word32, readLittle_append (show value.toNat < 256 ^ 4 from value.toNat_lt) rest,
    UInt32.ofNat_toNat]

theorem word64_inverted : word64.Inverted := by
  intro value rest _
  simp only [word64, readLittle_append (show value.toNat < 256 ^ 8 from value.toNat_lt) rest,
    UInt64.ofNat_toNat]

theorem bytes_inverted : bytes.Inverted := by
  intro value rest fits
  simp only [bytes] at fits ⊢
  rw [List.append_assoc, readLittle_append (by omega)]
  simp only [Bytes.splitExact?_append value rest rfl]

theorem text_inverted : text.Inverted := by
  intro value rest fits
  simp only [text] at fits ⊢
  rw [List.append_assoc, readLittle_append (by omega)]
  simp only [Bytes.splitExact?_append _ rest (Bytes.length_ofText value), Text.Utf8.decode?_ofText]

theorem readMany_write {codec : Codec α} (inverted : codec.Inverted) (values reversed : List α)
    (rest : Bytes) (fits : (values.map codec.size).sum < 2 ^ 64) :
    codec.readMany values.length reversed (values.flatMap codec.write ++ rest) =
      .ok (reversed.reverse ++ values, rest) := by
  induction values generalizing reversed with
  | nil => simp [readMany]
  | cons value values ih =>
    simp only [List.map_cons, List.sum_cons] at fits
    simp only [List.length_cons, List.flatMap_cons, List.append_assoc, readMany,
      inverted value _ (show codec.size value < 2 ^ 64 by omega)]
    rw [ih (value :: reversed) (by omega)]
    simp

theorem length_le_sum_sizes (codec : Codec α) (positive : ∀ value, 0 < codec.size value)
    (values : List α) : values.length ≤ (values.map codec.size).sum := by
  induction values with
  | nil => simp
  | cons value values ih =>
    have := positive value
    simp only [List.length_cons, List.map_cons, List.sum_cons]
    omega

/-- Values without any bytes could be more than 64 bits can count, so a list needs them to have
some. -/
theorem Inverted.list {codec : Codec α} (inverted : codec.Inverted)
    (positive : ∀ value, 0 < codec.size value) : (list codec).Inverted := by
  intro values rest fits
  simp only [Codec.list, ← List.sum_eq_foldr] at fits ⊢
  have counted := codec.length_le_sum_sizes positive values
  rw [List.append_assoc, readLittle_append (by omega)]
  simpa using readMany_write inverted values [] rest (by omega)

theorem Inverted.option {codec : Codec α} (inverted : codec.Inverted) :
    (option codec).Inverted := by
  intro value rest fits
  cases value with
  | none => rfl
  | some value =>
    simp only [Codec.option] at fits ⊢
    simp [inverted value rest (by omega)]

theorem choice_inverted {all : List α} {place : α → Nat}
    (found : ∀ value, all[place value]? = some value) (few : ∀ value, place value < 2 ^ 32) :
    (choice all place).Inverted := by
  intro value rest _
  simp only [choice, readLittle_append (show place value < 256 ^ 4 from few value), found]

theorem Inverted.readAs {codec : Codec α} (inverted : codec.Inverted) (make : α → β) {fields : α}
    (rest : Bytes) (fits : codec.size fields < 2 ^ 64) :
    codec.readAs make (codec.write fields ++ rest) = .ok (make fields, rest) := by
  simp only [Codec.readAs, inverted fields rest fits]

theorem readVariant_variant (place count : Nat) (within : place < count ∧ count ≤ 2 ^ 32)
    (rest : Bytes) : readVariant count (variant place ++ rest) = .ok (place, rest) := by
  have fits : place < 256 ^ 4 := by omega
  simp only [readVariant, variant, readLittle_append fits, within.1, if_true]

end Codec

open Codec

theorem databaseId_inverted : databaseId.Inverted := word64_inverted.via fun _ => rfl

theorem access_inverted : access.Inverted :=
  choice_inverted (fun value => by cases value <;> rfl) (fun value => by cases value <;> decide)

theorem status_inverted : status.Inverted :=
  choice_inverted Status.ofCode?_code (fun value => by cases value <;> decide)

theorem descriptor_inverted : descriptor.Inverted :=
  (word64_inverted.pair (access_inverted.pair (word64_inverted.list fun _ => Nat.succ_pos 7))).via
    fun _ => rfl

theorem segmentWrite_inverted : segmentWrite.Inverted :=
  (word32_inverted.pair bytes_inverted).via fun _ => rfl

theorem putFields_inverted : putFields.Inverted :=
  databaseId_inverted.pair (bytes_inverted.pair bytes_inverted)

theorem bulkFields_inverted : bulkFields.Inverted :=
  databaseId_inverted.pair (bytes_inverted.pair descriptor_inverted)

theorem getFields_inverted : getFields.Inverted :=
  databaseId_inverted.pair (bytes_inverted.pair word64_inverted)

theorem keyFields_inverted : keyFields.Inverted := databaseId_inverted.pair bytes_inverted

theorem listKeysFields_inverted : listKeysFields.Inverted :=
  databaseId_inverted.pair (bytes_inverted.pair (bytes_inverted.pair
    (word64_inverted.pair (descriptor_inverted.pair descriptor_inverted))))

theorem listPairsFields_inverted : listPairsFields.Inverted :=
  databaseId_inverted.pair (bytes_inverted.pair (bytes_inverted.pair
    (word64_inverted.pair (descriptor_inverted.pair (descriptor_inverted.pair
      (descriptor_inverted.pair descriptor_inverted))))))

theorem request_inverted : request.Inverted := by
  intro value rest fits
  -- Each alternative is its place followed by the fields of that place.
  cases value with
  | openName name =>
    simp only [request, List.append_assoc,
      readVariant_variant 0 9 (by decide)] at fits ⊢
    exact text_inverted.readAs _ rest (by omega)
  | put db key value =>
    simp only [request, List.append_assoc,
      readVariant_variant 1 9 (by decide)] at fits ⊢
    exact putFields_inverted.readAs _ rest (by omega)
  | bulkPut db key value =>
    simp only [request, List.append_assoc,
      readVariant_variant 2 9 (by decide)] at fits ⊢
    exact bulkFields_inverted.readAs _ rest (by omega)
  | get db key maxSize =>
    simp only [request, List.append_assoc,
      readVariant_variant 3 9 (by decide)] at fits ⊢
    exact getFields_inverted.readAs _ rest (by omega)
  | bulkGet db key buffer =>
    simp only [request, List.append_assoc,
      readVariant_variant 4 9 (by decide)] at fits ⊢
    exact bulkFields_inverted.readAs _ rest (by omega)
  | erase db key =>
    simp only [request, List.append_assoc,
      readVariant_variant 5 9 (by decide)] at fits ⊢
    exact keyFields_inverted.readAs _ rest (by omega)
  | length db key =>
    simp only [request, List.append_assoc,
      readVariant_variant 6 9 (by decide)] at fits ⊢
    exact keyFields_inverted.readAs _ rest (by omega)
  | listKeys db start stem maxKeys keys keySizes =>
    simp only [request, List.append_assoc,
      readVariant_variant 7 9 (by decide)] at fits ⊢
    exact listKeysFields_inverted.readAs _ rest (by omega)
  | listPairs db start stem maxKeys keys keySizes values valueSizes =>
    simp only [request, List.append_assoc,
      readVariant_variant 8 9 (by decide)] at fits ⊢
    exact listPairsFields_inverted.readAs _ rest (by omega)

theorem openedFields_inverted : openedFields.Inverted :=
  status_inverted.pair databaseId_inverted.option

theorem gotFields_inverted : gotFields.Inverted :=
  status_inverted.pair (bytes_inverted.pair word64_inverted)

theorem sizeFields_inverted : sizeFields.Inverted := status_inverted.pair word64_inverted

theorem reply_inverted : reply.Inverted := by
  intro value rest fits
  cases value with
  | opened status db =>
    simp only [reply, List.append_assoc,
      readVariant_variant 0 6 (by decide)] at fits ⊢
    exact openedFields_inverted.readAs _ rest (by omega)
  | ack status =>
    simp only [reply, List.append_assoc,
      readVariant_variant 1 6 (by decide)] at fits ⊢
    exact status_inverted.readAs _ rest (by omega)
  | got status value size =>
    simp only [reply, List.append_assoc,
      readVariant_variant 2 6 (by decide)] at fits ⊢
    exact gotFields_inverted.readAs _ rest (by omega)
  | bulkGot status size =>
    simp only [reply, List.append_assoc,
      readVariant_variant 3 6 (by decide)] at fits ⊢
    exact sizeFields_inverted.readAs _ rest (by omega)
  | length status size =>
    simp only [reply, List.append_assoc,
      readVariant_variant 4 6 (by decide)] at fits ⊢
    exact sizeFields_inverted.readAs _ rest (by omega)
  | listed status count =>
    simp only [reply, List.append_assoc,
      readVariant_variant 5 6 (by decide)] at fits ⊢
    exact sizeFields_inverted.readAs _ rest (by omega)

theorem call_inverted : call.Inverted := word8_inverted.pair request_inverted

theorem segments_inverted : segments.Inverted :=
  bytes_inverted.list fun _ => Nat.lt_of_lt_of_le (Nat.succ_pos 7) (Nat.le_add_right ..)

theorem push_inverted : push.Inverted :=
  word64_inverted.pair (segmentWrite_inverted.list fun _ =>
    Nat.lt_of_lt_of_le (Nat.succ_pos 3) (Nat.le_add_right ..))

end Wire

end KeyDepot
