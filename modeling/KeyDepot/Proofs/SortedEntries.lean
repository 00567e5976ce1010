import KeyDepot.Storage.Entries

namespace KeyDepot.Entries

variable {order : Comparison} {key other value : Bytes} {entries : Entries}

/-- Each key comes strictly before the next. -/
def Ascending (order : Comparison) (entries : Entries) : Prop :=
  entries.Pairwise fun left right => order left.key right.key = .lt

instance (order : Comparison) (entries : Entries) : Decidable (entries.Ascending order) :=
  inferInstanceAs (Decidable (List.Pairwise _ entries))

theorem Ascending.erase (ascending : entries.Ascending order) :
    (entries.erase order key).Ascending order :=
  List.Pairwise.sublist List.eraseP_sublist ascending

theorem find?_cons (first : Entry) (rest : Entries) :
    Entries.find? order key (first :: rest) =
      if order key first.key = .eq then some first else Entries.find? order key rest := by
  by_cases reached : order key first.key = .eq <;> simp [find?, reached]

theorem find?_of_lt (before : ∀ entry ∈ entries, order key entry.key = .lt) :
    entries.find? order key = none := by
  apply List.find?_eq_none.mpr
  intro entry member
  rw [before entry member]
  decide

/-- The key of an entry after an insertion is the one inserted or was there before. -/
theorem key_of_mem_insert {entry : Entry} (member : entry ∈ entries.insert order key value) :
    entry.key = key ∨ ∃ old ∈ entries, entry.key = old.key := by
  induction entries with
  | nil =>
    obtain rfl := List.mem_singleton.mp member
    exact .inl rfl
  | cons first rest ih =>
    rw [insert] at member
    split at member
    · rcases List.mem_cons.mp member with rfl | old
      · exact .inl rfl
      · exact .inr ⟨entry, old, rfl⟩
    · rcases List.mem_cons.mp member with rfl | old
      · exact .inr ⟨first, List.mem_cons_self .., rfl⟩
      · exact .inr ⟨entry, List.mem_cons_of_mem _ old, rfl⟩
    · rcases List.mem_cons.mp member with rfl | later
      · exact .inr ⟨entry, List.mem_cons_self .., rfl⟩
      · rcases ih later with new | ⟨old, held, same⟩
        · exact .inl new
        · exact .inr ⟨old, List.mem_cons_of_mem _ held, same⟩

variable [Std.TransCmp order]

theorem Ascending.nodup_keys (ascending : entries.Ascending order) :
    (entries.map Entry.key).Nodup := by
  apply List.pairwise_map.mpr
  apply ascending.imp
  intro left right before same
  have equal : order right.key right.key = .eq := Std.ReflCmp.compare_self
  rw [same, equal] at before
  cases before

theorem find?_congr (same : order key other = .eq) (entries : Entries) :
    entries.find? order key = entries.find? order other := by
  simp only [find?, Std.TransCmp.congr_left same]

/-- A key that does not come after the first one is before all that follow it. -/
theorem Ascending.lt_rest {first : Entry} {rest : Entries}
    (ascending : Ascending order (first :: rest)) (reached : (order key first.key).isLE)
    {entry : Entry} (member : entry ∈ rest) : order key entry.key = .lt :=
  Std.TransCmp.lt_of_isLE_of_lt reached (List.rel_of_pairwise_cons ascending member)

theorem Ascending.lt_all {first : Entry} {rest : Entries}
    (ascending : Ascending order (first :: rest)) (faced : order key first.key = .lt)
    {entry : Entry} (member : entry ∈ first :: rest) : order key entry.key = .lt := by
  rcases List.mem_cons.mp member with rfl | later
  · exact faced
  · exact ascending.lt_rest (by rw [faced]; rfl) later

theorem Ascending.insert (ascending : entries.Ascending order) :
    (entries.insert order key value).Ascending order := by
  induction entries with
  | nil => exact List.pairwise_singleton ..
  | cons first rest ih =>
    obtain ⟨least, sorted⟩ := List.pairwise_cons.mp ascending
    rw [Entries.insert]
    split <;> rename_i faced
    · exact List.pairwise_cons.mpr ⟨fun entry member => ascending.lt_all faced member, ascending⟩
    · exact List.pairwise_cons.mpr ⟨least, sorted⟩
    · refine List.pairwise_cons.mpr ⟨?_, ih sorted⟩
      intro entry member
      rcases key_of_mem_insert member with new | ⟨old, held, same⟩
      · rw [new]
        exact Std.OrientedCmp.gt_iff_lt.mp faced
      · rw [same]
        exact least old held

theorem find?_insert_absent (absent : entries.find? order key = none)
    (same : order other key = .eq) :
    (entries.insert order key value).find? order other = some ⟨key, value⟩ := by
  induction entries with
  | nil => rw [Entries.insert, find?_cons, if_pos same]
  | cons first rest ih =>
    rw [find?_cons] at absent
    rw [Entries.insert]
    split <;> rename_i faced
    · rw [find?_cons, if_pos same]
    · rw [if_pos faced] at absent
      cases absent
    · have passed : order other first.key = .gt := (Std.TransCmp.congr_left same).trans faced
      rw [if_neg (by rw [faced]; decide)] at absent
      rw [find?_cons, if_neg (by rw [passed]; decide)]
      exact ih absent

theorem Ascending.find?_insert_present (ascending : entries.Ascending order) {old : Entry}
    (present : entries.find? order key = some old) (same : order other key = .eq) :
    (entries.insert order key value).find? order other = some { old with value } := by
  induction entries with
  | nil => cases present
  | cons first rest ih =>
    have faced_too : order other first.key = order key first.key := Std.TransCmp.congr_left same
    rw [Entries.insert]
    split <;> rename_i faced
    · have missing : Entries.find? order key (first :: rest) = none :=
        find?_of_lt fun entry member => ascending.lt_all faced member
      rw [missing] at present
      cases present
    · rw [find?_cons, if_pos faced] at present
      obtain rfl := Option.some.inj present
      rw [find?_cons, if_pos (faced_too.trans faced)]
    · rw [find?_cons, if_neg (by rw [faced]; decide)] at present
      rw [find?_cons, if_neg (by rw [faced_too, faced]; decide)]
      exact ih (List.Pairwise.of_cons ascending) present

theorem find?_insert_other (apart : order other key ≠ .eq) :
    (entries.insert order key value).find? order other = entries.find? order other := by
  induction entries with
  | nil =>
    rw [Entries.insert, find?_cons, if_neg apart]
  | cons first rest ih =>
    rw [Entries.insert]
    split <;> rename_i faced
    · rw [find?_cons, if_neg apart]
    · have differs : order other first.key ≠ .eq := by
        rwa [← Std.TransCmp.congr_right faced]
      rw [find?_cons, find?_cons, if_neg differs, if_neg differs]
    · rw [find?_cons, find?_cons, ih]

theorem Ascending.find?_erase_same (ascending : entries.Ascending order)
    (same : order other key = .eq) : (entries.erase order key).find? order other = none := by
  rw [find?_congr same]
  induction entries with
  | nil => rfl
  | cons first rest ih =>
    by_cases reached : order key first.key = .eq
    · rw [Entries.erase, List.eraseP_cons_of_pos (by simp [reached])]
      exact find?_of_lt fun entry member => ascending.lt_rest (by rw [reached]; rfl) member
    · rw [Entries.erase, List.eraseP_cons_of_neg (by simp [reached]), find?_cons, if_neg reached]
      exact ih (List.Pairwise.of_cons ascending)

theorem find?_erase_other (apart : order other key ≠ .eq) :
    (entries.erase order key).find? order other = entries.find? order other := by
  induction entries with
  | nil => rfl
  | cons first rest ih =>
    by_cases reached : order key first.key = .eq
    · have differs : order other first.key ≠ .eq := by
        rwa [← Std.TransCmp.congr_right reached]
      rw [Entries.erase, List.eraseP_cons_of_pos (by simp [reached]), find?_cons, if_neg differs]
    · rw [Entries.erase, List.eraseP_cons_of_neg (by simp [reached]), find?_cons, find?_cons]
      exact congrArg (ite _ _) ih

theorem Ascending.mem_iff (ascending : entries.Ascending order) {entry : Entry} :
    entry ∈ entries ↔ entries.find? order entry.key = some entry := by
  constructor
  · intro member
    induction entries with
    | nil => cases member
    | cons first rest ih =>
      obtain ⟨least, sorted⟩ := List.pairwise_cons.mp ascending
      rcases List.mem_cons.mp member with rfl | later
      · rw [find?_cons, if_pos Std.ReflCmp.compare_self]
      · have passed : order entry.key first.key = .gt :=
          Std.OrientedCmp.gt_iff_lt.mpr (least entry later)
        rw [find?_cons, if_neg (by rw [passed]; decide)]
        exact ih sorted later
  · exact List.mem_of_find?_eq_some

end KeyDepot.Entries
