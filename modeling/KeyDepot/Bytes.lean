/-!
Keys, values and everything that travels: finite sequences of bytes, their order, and numbers
written in a fixed count of bytes.
-/

namespace KeyDepot

abbrev Bytes := List UInt8

namespace Bytes

/-- The lexicographic order of byte sequences: the first difference decides, and a proper
beginning comes first. -/
def order (left right : Bytes) : Ordering :=
  List.compareLex compare left right

/-- The UTF-8 form of a text. -/
def ofText (text : String) : Bytes :=
  text.toByteArray.data.toList

theorem length_ofText (text : String) : (ofText text).length = text.utf8ByteSize := by
  rw [ofText, Array.length_toList]
  rfl

/-- A sequence of zero bytes. -/
def zeros (count : Nat) : Bytes :=
  List.replicate count 0

/-- The number in `width` bytes, the least significant first; what does not fit is dropped. -/
def little : Nat → Nat → Bytes
  | 0, _ => []
  | width + 1, value => UInt8.ofNat value :: little width (value / 256)

theorem length_little (width value : Nat) : (little width value).length = width := by
  induction width generalizing value with
  | zero => rfl
  | succ width ih => simp [little, ih]

/-- The number whose bytes these are, the least significant first. -/
def littleValue : Bytes → Nat
  | [] => 0
  | byte :: rest => byte.toNat + 256 * littleValue rest

/-- The number in `width` bytes, the most significant first. -/
def big (width value : Nat) : Bytes :=
  (little width value).reverse

/-- The number whose bytes these are, the most significant first. -/
def bigValue (bytes : Bytes) : Nat :=
  littleValue bytes.reverse

/-- The first `count` bytes and the rest, when there are that many. -/
def splitExact? (count : Nat) (bytes : Bytes) : Option (Bytes × Bytes) :=
  let head := bytes.take count
  if head.length = count then some (head, bytes.drop count) else none

/-- The first bytes of `target` replaced by `data`, as far as `target` reaches. -/
def overwrite (target data : Bytes) : Bytes :=
  data.take target.length ++ target.drop data.length

end Bytes

end KeyDepot
