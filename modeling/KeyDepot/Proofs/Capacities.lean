import Mathlib.Algebra.Order.Ring.Nat
import KeyDepot.Message.Transfer

/-! What the sizes of a region come to when they are summed up in 64 bits. A release build gets the
room of the region up to a multiple of 2 ^ 64; a debug build gets the room itself, or panics. -/

namespace KeyDepot

namespace Build

theorem foldlM_release (sizes : List UInt64) (start : UInt64) :
    sizes.foldlM release.add start =
      .ok (start + UInt64.ofNat (sizes.map UInt64.toNat).sum) := by
  induction sizes generalizing start with
  | nil => simp; rfl
  | cons size sizes ih =>
    have step : release.add start size = .ok (start + size) := rfl
    simp only [List.foldlM_cons, step, bind, Except.bind, ih, List.map_cons, List.sum_cons]
    rw [UInt64.ofNat_add, UInt64.ofNat_toNat, UInt64.add_assoc]

theorem foldlM_debug (sizes : List UInt64) (start : UInt64) :
    sizes.foldlM debug.add start =
      if start.toNat + (sizes.map UInt64.toNat).sum < UInt64.size then
        .ok (start + UInt64.ofNat (sizes.map UInt64.toNat).sum)
      else .error .sumOverflow := by
  induction sizes generalizing start with
  | nil => simp [UInt64.toNat_lt_size start]; rfl
  | cons size sizes ih =>
    simp only [List.foldlM_cons, add, List.map_cons, List.sum_cons]
    by_cases fits : start.toNat + size.toNat < UInt64.size
    · have next : (start + size).toNat = start.toNat + size.toNat := by
        rw [UInt64.toNat_add, Nat.mod_eq_of_lt fits]
      simp only [if_pos fits, bind, Except.bind, ih, next, Nat.add_assoc]
      rw [UInt64.ofNat_add, UInt64.ofNat_toNat, UInt64.add_assoc]
    · have beyond : ¬ start.toNat + (size.toNat + (sizes.map UInt64.toNat).sum) < UInt64.size := by
        omega
      simp only [if_neg fits, if_neg beyond, bind, Except.bind]

end Build

namespace Descriptor

/-- The room of all segments together. -/
def capacity (descriptor : Descriptor) : Nat :=
  (descriptor.sizes.map UInt64.toNat).sum

/-- The sizes have no sum in 64 bits. -/
def Exceeds (descriptor : Descriptor) : Prop :=
  UInt64.size ≤ descriptor.capacity

variable {descriptor : Descriptor} {build : Build}

theorem total_eq_ok {total : UInt64} (summed : descriptor.total build = .ok total) :
    total = UInt64.ofNat descriptor.capacity := by
  cases build with
  | debug =>
    rw [Descriptor.total, Build.foldlM_debug, UInt64.zero_add] at summed
    split at summed
    · exact (Except.ok.inj summed).symm
    · cases summed
  | release =>
    rw [Descriptor.total, Build.foldlM_release, UInt64.zero_add] at summed
    exact (Except.ok.inj summed).symm

theorem total_eq_error_iff {cause : Panic} :
    descriptor.total build = .error cause ↔
      (build = .debug ∧ descriptor.Exceeds) ∧ cause = .sumOverflow := by
  cases build with
  | debug =>
    rw [Descriptor.total, Build.foldlM_debug, UInt64.zero_add]
    simp only [UInt64.toNat_zero, Nat.zero_add, Exceeds, capacity, true_and]
    split
    · rename_i fits
      simp [Nat.not_le.mpr fits]
    · rename_i beyond
      simp [Nat.not_lt.mp beyond, eq_comm]
  | release =>
    rw [Descriptor.total, Build.foldlM_release]
    simp

theorem not_exceeds {total : UInt64} (summed : descriptor.total build = .ok total) :
    ¬ (build = .debug ∧ descriptor.Exceeds) := by
  intro exceeds
  have failed : descriptor.total build = .error .sumOverflow :=
    total_eq_error_iff.mpr ⟨exceeds, rfl⟩
  rw [summed] at failed
  cases failed

theorem total_debug {total : UInt64} (summed : descriptor.total .debug = .ok total) :
    total.toNat = descriptor.capacity := by
  have small : descriptor.capacity < UInt64.size :=
    Nat.not_le.mp fun exceeds => not_exceeds summed ⟨rfl, exceeds⟩
  rw [total_eq_ok summed, UInt64.toNat_ofNat_of_lt' small]

theorem total_of_lt (small : descriptor.capacity < UInt64.size) (build : Build) :
    ∃ total, descriptor.total build = .ok total ∧ total.toNat = descriptor.capacity := by
  cases summed : descriptor.total build with
  | error cause =>
    obtain ⟨⟨-, exceeds⟩, -⟩ := total_eq_error_iff.mp summed
    exact absurd small (Nat.not_lt.mpr exceeds)
  | ok total =>
    exact ⟨total, rfl, by rw [total_eq_ok summed, UInt64.toNat_ofNat_of_lt' small]⟩

theorem total_single (region : UInt64) (access : Access) (size : UInt64) (build : Build) :
    (⟨region, access, [size]⟩ : Descriptor).total build = .ok size := by
  have whole : (⟨region, access, [size]⟩ : Descriptor).capacity = size.toNat := by simp [capacity]
  obtain ⟨total, summed, counts⟩ := total_of_lt (whole ▸ size.toNat_lt_size) build
  rw [summed, ← UInt64.toNat_inj.mp (counts.trans whole)]

end Descriptor

end KeyDepot
