import KeyDepot.Bytes

namespace KeyDepot

variable {α : Type} (key : α → Bool) {items : List α} {new : α}

theorem find?_of_distinct {κ : Type} [BEq κ] [LawfulBEq κ] {name : α → κ}
    (distinct : (items.map name).Nodup) {item : α} (member : item ∈ items) :
    items.find? (fun other => name other == name item) = some item := by
  induction items with
  | nil => cases member
  | cons first rest ih =>
    obtain ⟨fresh, others⟩ := List.nodup_cons.mp distinct
    rcases List.mem_cons.mp member with rfl | later
    · simp
    · have apart : name first ≠ name item := by
        intro same
        exact fresh (same ▸ List.mem_map_of_mem later)
      simp [apart, ih others later]

theorem find?_replace {old : α} (found : items.find? key = some old) (kept : key new = true) :
    (items.map fun item => if key item then new else item).find? key = some new := by
  induction items with
  | nil => simp at found
  | cons item items ih =>
    by_cases matched : key item = true
    · simp [matched, kept]
    · simp only [List.find?_cons, matched] at found
      simp [matched, ih found]

theorem find?_replace_other {other : α → Bool} (absent : other new = false)
    (apart : ∀ item, key item = true → other item = false) :
    (items.map fun item => if key item then new else item).find? other = items.find? other := by
  induction items with
  | nil => rfl
  | cons item items ih =>
    by_cases matched : key item = true
    · simp [matched, absent, apart item matched, ih]
    · simp [matched, List.find?_cons, ih]

theorem find?_replaced (kept : key new = true) :
    (items.map fun item => if key item then new else item).find? key =
      (items.find? key).map fun _ => new := by
  cases found : items.find? key with
  | some old => exact find?_replace key found kept
  | none =>
    have apart := List.find?_eq_none.mp found
    have same : (items.map fun item => if key item then new else item) = items := by
      refine (List.map_congr_left fun item member => ?_).trans (List.map_id items)
      rw [if_neg (apart item member), id_eq]
    rw [same, found, Option.map_none]

end KeyDepot
