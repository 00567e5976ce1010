import KeyDepot.Bytes

/-!
Panics: computations that stop short with nothing to return. More room was asked for than a sequence
can have, or a sum went beyond its 64 bits in a build that looks for that.
-/

namespace KeyDepot

inductive Panic where
  | capacityOverflow
  | sumOverflow
  deriving DecidableEq, Repr, Inhabited

theorem bind_eq_ok_iff {ε α β : Type} {first : Except ε α} {next : α → Except ε β} {result : β} :
    (first >>= next) = .ok result ↔ ∃ value, first = .ok value ∧ next value = .ok result := by
  cases first with
  | error error => exact ⟨nofun, nofun⟩
  | ok value => exact ⟨fun same => ⟨value, rfl, same⟩, fun ⟨_, rfl, same⟩ => same⟩

theorem bind_fails_iff {ε α β : Type} {first : Except ε α} {next : α → Except ε β} :
    (∃ error, first >>= next = .error error) ↔
      (∃ error, first = .error error) ∨
        ∃ value, first = .ok value ∧ ∃ error, next value = .error error := by
  cases first with
  | error error =>
    have fails : (Except.error error >>= next) = .error error := rfl
    simp [fails]
  | ok value =>
    have goesOn : (Except.ok value >>= next) = next value := rfl
    simp [goesOn]

theorem map_eq_ok_iff {ε α β : Type} {first : Except ε α} {next : α → β} {result : β} :
    first.map next = .ok result ↔ ∃ value, first = .ok value ∧ next value = result := by
  cases first with
  | error error => exact ⟨nofun, nofun⟩
  | ok value => simp [Except.map]

namespace Bytes

/-- The greatest length a sequence can have in memory: 2 ^ 63 - 1. -/
def maxLength : Nat := 0x7FFFFFFFFFFFFFFF

theorem lt_of_le_maxLength {length : Nat} (short : length ≤ maxLength) : length < UInt64.size :=
  Nat.lt_of_le_of_lt short (by decide)

/-- What a sequence of sequences takes for each of its members, beside their contents. -/
def memberSize : Nat := 24

/-- That many zero bytes, in memory. -/
def allocate (length : Nat) : Except Panic Bytes :=
  if length ≤ maxLength then .ok (zeros length) else .error .capacityOverflow

theorem allocate_of_le {length : Nat} (short : length ≤ maxLength) :
    allocate length = .ok (zeros length) :=
  if_pos short

theorem allocate_of_lt {length : Nat} (long : maxLength < length) :
    allocate length = .error .capacityOverflow :=
  if_neg (Nat.not_le.mpr long)

theorem allocate_eq_ok_iff {length : Nat} {bytes : Bytes} :
    allocate length = .ok bytes ↔ length ≤ maxLength ∧ zeros length = bytes := by
  by_cases short : length ≤ maxLength
  · simp [allocate_of_le short, short]
  · simp [allocate_of_lt (Nat.not_le.mp short), short]

/-- That many copies of a sequence, in memory. -/
def copies (count : Nat) (bytes : Bytes) : Except Panic (List Bytes) :=
  if count * memberSize ≤ maxLength then .ok (List.replicate count bytes)
  else .error .capacityOverflow

end Bytes

/-- How the program was built: a debug build looks for sums beyond 64 bits, and a release build
drops what is beyond. -/
inductive Build where
  | debug
  | release
  deriving DecidableEq, Repr, Inhabited

namespace Build

def add (build : Build) (left right : UInt64) : Except Panic UInt64 :=
  match build with
  | debug =>
    if left.toNat + right.toNat < UInt64.size then .ok (left + right) else .error .sumOverflow
  | release => .ok (left + right)

end Build

end KeyDepot
