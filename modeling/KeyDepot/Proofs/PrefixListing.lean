import KeyDepot.Proofs.KeyClasses
import KeyDepot.Proofs.SortedEntries

namespace KeyDepot

namespace PrefixScan

variable {α : Type} {key : α → Bytes} {stem : Bytes} {items : List α}

/-- Whether a scan for the stem ends at a key: the bytes that face the stem come after it. -/
def passes (stem key : Bytes) : Bool :=
  decide (stem.length ≤ key.length) && Bytes.order stem (key.take stem.length) == .lt

/-- The items that a scan for the stem lists when it may list them all. -/
def matching (key : α → Bytes) (stem : Bytes) (items : List α) : List α :=
  (items.takeWhile fun item => !passes stem (key item)).filter fun item =>
    stem.isPrefixOf (key item)

/-- A scan that may go on stops at a key that has passed the stem, and takes those that begin with
it. -/
theorem step_open {scan : PrefixScan} (more : scan.remaining ≠ 0) (key : Bytes) :
    scan.step key =
      if passes scan.stem key then (.stop, scan)
      else if scan.stem.isPrefixOf key then
        (.take, { scan with remaining := scan.remaining - 1 })
      else (.skip, scan) := by
  rw [step, if_neg more]
  by_cases short : key.length < scan.stem.length
  · have unlike : scan.stem.isPrefixOf key = false := by
      apply Bool.eq_false_iff.mpr
      intro begins
      have shorter := (List.isPrefixOf_iff_prefix.mp begins).length_le
      omega
    have before : passes scan.stem key = false := by simp [passes, Nat.not_le.mpr short]
    rw [if_pos short, before, unlike]
    rfl
  · have long : scan.stem.length ≤ key.length := Nat.not_lt.mp short
    have begins : scan.stem.isPrefixOf key =
        (Bytes.order scan.stem (key.take scan.stem.length) == .eq) := by
      apply Bool.eq_iff_iff.mpr
      rw [List.isPrefixOf_iff_prefix, List.prefix_iff_eq_take, beq_iff_eq,
        Std.LawfulEqCmp.compare_eq_iff_eq]
    rw [if_neg short, begins]
    cases faced : Bytes.order scan.stem (key.take scan.stem.length) <;> simp [passes, long, faced]

theorem matching_cons (item : α) (rest : List α) :
    matching key stem (item :: rest) =
      if passes stem (key item) then []
      else if stem.isPrefixOf (key item) then item :: matching key stem rest
      else matching key stem rest := by
  by_cases passed : passes stem (key item) = true
  · simp [matching, passed]
  · by_cases begins : stem.isPrefixOf (key item) = true <;> simp [matching, passed, begins]

/-- A scan lists the first of the items it would list without a limit. -/
theorem select_eq_take (count : Nat) (items : List α) :
    select key ⟨stem, count⟩ items = (matching key stem items).take count := by
  induction items generalizing count with
  | nil => simp [select, matching]
  | cons item rest ih =>
    cases count with
    | zero => simp [select, step]
    | succ count =>
      rw [select, step_open (Nat.succ_ne_zero count), matching_cons]
      by_cases passed : passes stem (key item) = true
      · simp [passed]
      · by_cases begins : stem.isPrefixOf (key item) = true <;> simp [passed, begins, ih]

theorem matching_sublist (key : α → Bytes) (stem : Bytes) (items : List α) :
    (matching key stem items).Sublist items :=
  List.filter_sublist.trans (List.takeWhile_sublist _)

/-- What is listed after an item is what is listed of the items that follow it. -/
theorem matching_split {before others : List α} {item : α}
    (listed : matching key stem items = before ++ item :: others) :
    ∃ front rest, items = front ++ item :: rest ∧ matching key stem rest = others := by
  induction items generalizing before with
  | nil => simp [matching] at listed
  | cons first rest ih =>
    rw [matching_cons] at listed
    split at listed
    · simp at listed
    · split at listed
      · cases before with
        | nil =>
          obtain ⟨rfl, later⟩ := List.cons.inj listed
          exact ⟨[], rest, rfl, later⟩
        | cons head before =>
          obtain ⟨rfl, later⟩ := List.cons.inj listed
          obtain ⟨front, back, same, found⟩ := ih later
          exact ⟨first :: front, back, by rw [same]; rfl, found⟩
      · obtain ⟨front, back, same, found⟩ := ih listed
        exact ⟨first :: front, back, by rw [same]; rfl, found⟩

end PrefixScan

namespace Entries

variable {order : Comparison} {stem : Bytes} {entries : Entries}

theorem page_eq_take (start : Bytes) (count : Nat) :
    entries.page order start count stem =
      (PrefixScan.matching Entry.key stem (entries.after order start)).take count :=
  PrefixScan.select_eq_take count _

theorem after_nil (entries : Entries) : entries.after order [] = entries := rfl

/-- After a key that is held come the entries that follow it, unless it is the empty key. -/
theorem Ascending.after_split [Std.TransCmp order] {front rest : Entries} {entry : Entry}
    (ascending : Ascending order (front ++ entry :: rest)) (named : entry.key ≠ []) :
    after order entry.key (front ++ entry :: rest) = rest := by
  obtain ⟨-, back, across⟩ := List.pairwise_append.mp ascending
  have nonempty : entry.key.isEmpty = false := List.isEmpty_eq_false_iff.mpr named
  have none_before :
      front.filter (fun other => order entry.key other.key == .lt) = [] := by
    apply List.filter_eq_nil_iff.mpr
    intro other member
    have earlier := across other member entry (List.mem_cons_self ..)
    rw [Std.OrientedCmp.gt_iff_lt.mpr earlier]
    decide
  have all_after : rest.filter (fun other => order entry.key other.key == .lt) = rest := by
    apply List.filter_eq_self.mpr
    intro other member
    exact beq_iff_eq.mpr (List.rel_of_pairwise_cons back member)
  have itself : order entry.key entry.key = .eq := Std.ReflCmp.compare_self
  rw [after, nonempty, if_neg Bool.false_ne_true, List.filter_append, none_before,
    List.filter_cons_of_neg (by rw [itself]; decide), all_after]
  rfl

end Entries

end KeyDepot
