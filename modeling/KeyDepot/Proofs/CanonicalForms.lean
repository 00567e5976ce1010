import KeyDepot.Proofs.CodecInverse

/-! Writing undoes reading. What a reader accepts is the form of the value it gives, followed by the
bytes it leaves: no value has a second form, and bytes that are no form of a value are refused. -/

namespace KeyDepot

namespace Bytes

theorem little_littleValue (bytes : Bytes) : little bytes.length (littleValue bytes) = bytes := by
  induction bytes with
  | nil => rfl
  | cons byte rest ih =>
    have small := byte.toNat_lt
    have high : (byte.toNat + 256 * littleValue rest) / 256 = littleValue rest := by omega
    have low : UInt8.ofNat (byte.toNat + 256 * littleValue rest) = byte := by
      apply UInt8.toNat_inj.mp
      rw [UInt8.toNat_ofNat']
      omega
    rw [List.length_cons, littleValue, little, high, low, ih]

theorem littleValue_lt (bytes : Bytes) : littleValue bytes < 256 ^ bytes.length := by
  induction bytes with
  | nil => simp [littleValue]
  | cons byte rest ih =>
    have small := byte.toNat_lt
    rw [List.length_cons, littleValue, Nat.pow_succ]
    omega

end Bytes

namespace Wire

variable {α β : Type}

theorem readLittle_eq_ok {width value : Nat} {input rest : Bytes}
    (read : readLittle width input = .ok (value, rest)) :
    input = Bytes.little width value ++ rest ∧ value < 256 ^ width := by
  simp only [readLittle] at read
  split at read
  · rename_i bytes left split
    obtain ⟨rfl, rfl⟩ := Bytes.splitExact?_eq_some split
    obtain ⟨rfl, rfl⟩ := Prod.mk.inj (Except.ok.inj read)
    exact ⟨by rw [Bytes.little_littleValue], Bytes.littleValue_lt bytes⟩
  · cases read

namespace Codec

/-- Whatever is read is the written form of the value, and nothing of what stands after it is
lost. -/
def Canonical (codec : Codec α) : Prop :=
  ∀ input value rest, codec.read input = .ok (value, rest) → input = codec.write value ++ rest

theorem Canonical.via {codec : Codec α} (canonical : codec.Canonical) {wrap : α → β}
    {unwrap : β → α} (same : ∀ value, unwrap (wrap value) = value) :
    (codec.via wrap unwrap).Canonical := by
  intro input value rest read
  simp only [Codec.via] at read ⊢
  split at read
  · rename_i inner left found
    obtain ⟨rfl, rfl⟩ := Prod.mk.inj (Except.ok.inj read)
    rw [same, canonical _ _ _ found]
  · cases read

theorem Canonical.pair {first : Codec α} {second : Codec β} (left : first.Canonical)
    (right : second.Canonical) : (first.pair second).Canonical := by
  intro input value rest read
  simp only [Codec.pair] at read ⊢
  split at read
  · cases read
  · rename_i front middle found
    split at read
    · cases read
    · rename_i back tail next
      obtain ⟨rfl, rfl⟩ := Prod.mk.inj (Except.ok.inj read)
      rw [left _ _ _ found, right _ _ _ next, List.append_assoc]

theorem word8_canonical : word8.Canonical := by
  intro input value rest read
  cases input with
  | nil => cases read
  | cons byte bytes =>
    obtain ⟨rfl, rfl⟩ := Prod.mk.inj (Except.ok.inj read)
    rfl

theorem word32_canonical : word32.Canonical := by
  intro input value rest read
  simp only [word32] at read ⊢
  split at read
  · rename_i number left found
    obtain ⟨same, fits⟩ := readLittle_eq_ok found
    obtain ⟨rfl, rfl⟩ := Prod.mk.inj (Except.ok.inj read)
    rw [UInt32.toNat_ofNat_of_lt' fits]
    exact same
  · cases read

theorem word64_canonical : word64.Canonical := by
  intro input value rest read
  simp only [word64] at read ⊢
  split at read
  · rename_i number left found
    obtain ⟨same, fits⟩ := readLittle_eq_ok found
    obtain ⟨rfl, rfl⟩ := Prod.mk.inj (Except.ok.inj read)
    rw [UInt64.toNat_ofNat_of_lt' fits]
    exact same
  · cases read

theorem bytes_canonical : bytes.Canonical := by
  intro input value rest read
  simp only [bytes] at read ⊢
  split at read
  · cases read
  · rename_i length left counted
    obtain ⟨same, -⟩ := readLittle_eq_ok counted
    split at read
    · rename_i found split
      obtain rfl : found = (value, rest) := Except.ok.inj read
      obtain ⟨rfl, rfl⟩ := Bytes.splitExact?_eq_some split
      rw [same, List.append_assoc]
    · cases read

theorem text_canonical : text.Canonical := by
  intro input value rest read
  simp only [text] at read ⊢
  split at read
  · cases read
  · rename_i length left counted
    obtain ⟨same, -⟩ := readLittle_eq_ok counted
    split at read
    · cases read
    · rename_i form tail split
      obtain ⟨rfl, rfl⟩ := Bytes.splitExact?_eq_some split
      split at read
      · rename_i spelled decoded
        obtain ⟨rfl, rfl⟩ := Prod.mk.inj (Except.ok.inj read)
        have whole := Text.Utf8.ofText_of_decode? decoded
        rw [← Bytes.length_ofText, whole, same, List.append_assoc]
      · cases read

/-- The values read are those read before and then as many as are due. -/
theorem readMany_eq_ok {codec : Codec α} (canonical : codec.Canonical) {count : Nat}
    {reversed values : List α} {input rest : Bytes}
    (read : codec.readMany count reversed input = .ok (values, rest)) :
    ∃ later, values = reversed.reverse ++ later ∧ later.length = count ∧
      input = later.flatMap codec.write ++ rest := by
  induction count generalizing reversed input with
  | zero =>
    obtain ⟨rfl, rfl⟩ := Prod.mk.inj (Except.ok.inj read)
    exact ⟨[], by simp⟩
  | succ count ih =>
    simp only [readMany] at read
    split at read
    · cases read
    · rename_i value left found
      obtain ⟨later, rfl, rfl, same⟩ := ih read
      refine ⟨value :: later, by simp, rfl, ?_⟩
      rw [canonical _ _ _ found, same, List.flatMap_cons, List.append_assoc]

theorem Canonical.list {codec : Codec α} (canonical : codec.Canonical) :
    (list codec).Canonical := by
  intro input values rest read
  simp only [Codec.list] at read ⊢
  split at read
  · cases read
  · rename_i count left counted
    obtain ⟨same, -⟩ := readLittle_eq_ok counted
    obtain ⟨later, rfl, rfl, whole⟩ := readMany_eq_ok canonical read
    simp only [same, whole, List.append_assoc]

theorem Canonical.option {codec : Codec α} (canonical : codec.Canonical) :
    (option codec).Canonical := by
  intro input value rest read
  cases input with
  | nil => cases read
  | cons tag left =>
    simp only [Codec.option] at read ⊢
    split at read
    · rename_i absent
      obtain ⟨rfl, rfl⟩ := Prod.mk.inj (Except.ok.inj read)
      rw [absent, List.singleton_append]
    · split at read
      · rename_i present
        split at read
        · rename_i inner tail found
          obtain ⟨rfl, rfl⟩ := Prod.mk.inj (Except.ok.inj read)
          rw [present, canonical _ _ _ found, List.cons_append]
        · cases read
      · cases read

/-- The place of a value in the list of all is the only one where it stands. -/
theorem choice_canonical {all : List α} {place : α → Nat}
    (placed : ∀ {variant value}, all[variant]? = some value → place value = variant) :
    (choice all place).Canonical := by
  intro input value rest read
  simp only [choice] at read ⊢
  split at read
  · cases read
  · rename_i variant left found
    obtain ⟨same, -⟩ := readLittle_eq_ok found
    split at read
    · rename_i known held
      obtain ⟨rfl, rfl⟩ := Prod.mk.inj (Except.ok.inj read)
      rw [placed held]
      exact same
    · cases read

theorem readVariant_eq_ok {count place : Nat} {input rest : Bytes}
    (read : readVariant count input = .ok (place, rest)) :
    input = variant place ++ rest ∧ place < count := by
  simp only [readVariant] at read
  split at read
  · cases read
  · rename_i found left held
    obtain ⟨same, -⟩ := readLittle_eq_ok held
    split at read
    · rename_i within
      obtain ⟨rfl, rfl⟩ := Prod.mk.inj (Except.ok.inj read)
      exact ⟨same, within⟩
    · cases read

theorem Canonical.alternative {codec : Codec α} (canonical : codec.Canonical) {whole : Codec β}
    {place : Nat} {make : α → β} {value : β} {input rest : Bytes}
    (read : codec.readAs make input = .ok (value, rest))
    (written : ∀ fields, whole.write (make fields) = variant place ++ codec.write fields) :
    variant place ++ input = whole.write value ++ rest := by
  simp only [Codec.readAs] at read
  split at read
  · rename_i fields left found
    obtain ⟨rfl, rfl⟩ := Prod.mk.inj (Except.ok.inj read)
    rw [written, canonical _ _ _ found, List.append_assoc]
  · cases read

end Codec

open Codec

theorem databaseId_canonical : databaseId.Canonical := word64_canonical.via fun _ => rfl

theorem access_canonical : access.Canonical := by
  refine choice_canonical fun {variant value} found => ?_
  obtain ⟨inside, rfl⟩ := List.getElem?_eq_some_iff.mp found
  have bound : variant < 3 := inside
  match variant, bound with
  | 0, _ | 1, _ | 2, _ => rfl

theorem status_canonical : status.Canonical := choice_canonical Status.code_of_ofCode?

theorem descriptor_canonical : descriptor.Canonical :=
  (word64_canonical.pair (access_canonical.pair word64_canonical.list)).via fun _ => rfl

theorem segmentWrite_canonical : segmentWrite.Canonical :=
  (word32_canonical.pair bytes_canonical).via fun _ => rfl

theorem putFields_canonical : putFields.Canonical :=
  databaseId_canonical.pair (bytes_canonical.pair bytes_canonical)

theorem bulkFields_canonical : bulkFields.Canonical :=
  databaseId_canonical.pair (bytes_canonical.pair descriptor_canonical)

theorem getFields_canonical : getFields.Canonical :=
  databaseId_canonical.pair (bytes_canonical.pair word64_canonical)

theorem keyFields_canonical : keyFields.Canonical := databaseId_canonical.pair bytes_canonical

theorem listKeysFields_canonical : listKeysFields.Canonical :=
  databaseId_canonical.pair (bytes_canonical.pair (bytes_canonical.pair
    (word64_canonical.pair (descriptor_canonical.pair descriptor_canonical))))

theorem listPairsFields_canonical : listPairsFields.Canonical :=
  databaseId_canonical.pair (bytes_canonical.pair (bytes_canonical.pair
    (word64_canonical.pair (descriptor_canonical.pair (descriptor_canonical.pair
      (descriptor_canonical.pair descriptor_canonical))))))

theorem request_canonical : request.Canonical := by
  intro input value rest read
  simp only [request] at read
  cases held : readVariant 9 input with
  | error fault => rw [held] at read; cases read
  | ok found =>
    obtain ⟨place, left⟩ := found
    obtain ⟨rfl, within⟩ := readVariant_eq_ok held
    rw [held] at read
    have places : place = 0 ∨ place = 1 ∨ place = 2 ∨ place = 3 ∨ place = 4 ∨ place = 5 ∨
        place = 6 ∨ place = 7 ∨ place = 8 := by omega
    -- Each place has the fields of one alternative.
    rcases places with rfl | rfl | rfl | rfl | rfl | rfl | rfl | rfl | rfl
    · exact text_canonical.alternative read fun _ => rfl
    · exact putFields_canonical.alternative read fun _ => rfl
    · exact bulkFields_canonical.alternative read fun _ => rfl
    · exact getFields_canonical.alternative read fun _ => rfl
    · exact bulkFields_canonical.alternative read fun _ => rfl
    · exact keyFields_canonical.alternative read fun _ => rfl
    · exact keyFields_canonical.alternative read fun _ => rfl
    · exact listKeysFields_canonical.alternative read fun _ => rfl
    · exact listPairsFields_canonical.alternative read fun _ => rfl

theorem openedFields_canonical : openedFields.Canonical :=
  status_canonical.pair databaseId_canonical.option

theorem gotFields_canonical : gotFields.Canonical :=
  status_canonical.pair (bytes_canonical.pair word64_canonical)

theorem sizeFields_canonical : sizeFields.Canonical := status_canonical.pair word64_canonical

theorem reply_canonical : reply.Canonical := by
  intro input value rest read
  simp only [reply] at read
  cases held : readVariant 6 input with
  | error fault => rw [held] at read; cases read
  | ok found =>
    obtain ⟨place, left⟩ := found
    obtain ⟨rfl, within⟩ := readVariant_eq_ok held
    rw [held] at read
    have places : place = 0 ∨ place = 1 ∨ place = 2 ∨ place = 3 ∨ place = 4 ∨ place = 5 := by
      omega
    rcases places with rfl | rfl | rfl | rfl | rfl | rfl
    · exact openedFields_canonical.alternative read fun _ => rfl
    · exact status_canonical.alternative read fun _ => rfl
    · exact gotFields_canonical.alternative read fun _ => rfl
    · exact sizeFields_canonical.alternative read fun _ => rfl
    · exact sizeFields_canonical.alternative read fun _ => rfl
    · exact sizeFields_canonical.alternative read fun _ => rfl

theorem call_canonical : call.Canonical := word8_canonical.pair request_canonical

theorem segments_canonical : segments.Canonical := bytes_canonical.list

theorem push_canonical : push.Canonical := word64_canonical.pair segmentWrite_canonical.list

end Wire

end KeyDepot
