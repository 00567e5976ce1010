import KeyDepot.Bytes

namespace KeyDepot

/-- A named order on keys. Keys that compare equal are one key. -/
structure KeyOrder where
  name : String
  compare : Bytes → Bytes → Ordering

instance : Inhabited KeyOrder := ⟨⟨"", Bytes.order⟩⟩

end KeyDepot
