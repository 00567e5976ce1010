import KeyDepot.Storage.Order

namespace KeyDepot

/-- A key order that is a total preorder. -/
structure TotalOrder extends KeyOrder where
  total : Std.TransCmp compare

instance (order : TotalOrder) : Std.TransCmp order.compare := order.total

instance : Std.TransCmp Bytes.order :=
  inferInstanceAs (Std.TransCmp (List.compareLex (compare : UInt8 → UInt8 → Ordering)))

instance : Std.LawfulEqCmp Bytes.order :=
  inferInstanceAs (Std.LawfulEqCmp (List.compareLex (compare : UInt8 → UInt8 → Ordering)))

namespace KeyOrder

/-- Comparing what is left of the keys is as good an order as the one used on it. -/
theorem total_on {compare : Bytes → Bytes → Ordering} [Std.TransCmp compare]
    (view : Bytes → Bytes) :
    Std.TransCmp fun left right => compare (view left) (view right) where
  eq_swap := Std.OrientedCmp.eq_swap
  isLE_trans := Std.TransCmp.isLE_trans

/-- Only the first byte counts, and the empty key comes first. -/
def byFirst (left right : Bytes) : Ordering :=
  Bytes.order (left.take 1) (right.take 1)

end KeyOrder

namespace TotalOrder

/-- The order every store has by default. -/
def bytewise : TotalOrder := { name := "bytewise", compare := Bytes.order, total := inferInstance }

/-- Keys the order does not tell apart. -/
def same (order : TotalOrder) : Setoid Bytes where
  r left right := order.compare left right = .eq
  iseqv :=
    { refl := fun _ => Std.ReflCmp.compare_self
      symm := Std.OrientedCmp.eq_comm.mp
      trans := Std.TransCmp.eq_trans }

/-- A class of keys. -/
abbrev Class (order : TotalOrder) := Quotient order.same

instance (order : TotalOrder) : DecidableEq order.Class :=
  @Quotient.decidableEq _ order.same fun left right =>
    inferInstanceAs (Decidable (order.compare left right = .eq))

/-- The class of a key. -/
def classOf (order : TotalOrder) (key : Bytes) : order.Class := Quotient.mk order.same key

theorem classOf_eq_iff (order : TotalOrder) {left right : Bytes} :
    order.classOf left = order.classOf right ↔ order.compare left right = .eq :=
  ⟨Quotient.exact, fun equal => Quotient.sound equal⟩

end TotalOrder

end KeyDepot
