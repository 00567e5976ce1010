import KeyDepot.Proofs.PrefixListing
import KeyDepot.Proofs.ReachableStores

/-! Which of the keys that begin with a stem a listing holds. Under the bytewise order it holds them
all. Under another order that keeps the keys with a common beginning together, it holds them all or
none. -/

namespace KeyDepot

theorem Bytes.order_cons_lt {byte other : UInt8} {left right : Bytes} :
    order (byte :: left) (other :: right) = .lt ↔
      byte < other ∨ byte = other ∧ order left right = .lt := by
  rw [order, List.compareLex_cons_cons, Ordering.then_eq_lt, Std.compare_eq_lt,
    Std.LawfulEqCmp.compare_eq_iff_eq]
  rfl

namespace PrefixScan

variable {stem key : Bytes} {entries : Entries}

/-- No entry that ends a scan for the stem stands before one that begins with it. -/
def Uncut (stem : Bytes) (entries : Entries) : Prop :=
  entries.Pairwise fun earlier later => passes stem earlier.key → ¬ stem <+: later.key

instance (stem : Bytes) (entries : Entries) : Decidable (Uncut stem entries) :=
  inferInstanceAs (Decidable (List.Pairwise _ entries))

theorem not_begins_of_passes (passed : passes stem key) : ¬ stem <+: key := by
  intro begins
  have faced : key.take stem.length = stem := (List.prefix_iff_eq_take.mp begins).symm
  have itself : Bytes.order stem stem = .eq := Std.ReflCmp.compare_self
  simp [passes, faced, itself] at passed

/-- A scan that may list more stops exactly at the keys that have passed the stem. -/
theorem step_stops_iff {remaining : Nat} (more : remaining ≠ 0) :
    (step ⟨stem, remaining⟩ key).1 = .stop ↔ passes stem key := by
  rw [step_open more]
  by_cases passed : passes stem key = true
  · simp [passed]
  · by_cases begins : stem.isPrefixOf key = true <;> simp [passed, begins]

theorem uncut_cons {first : Entry} {rest : Entries} (before : ¬ passes stem first.key) :
    Uncut stem (first :: rest) ↔ Uncut stem rest := by
  rw [Uncut, List.pairwise_cons]
  exact and_iff_right fun later _ passed => absurd passed before

theorem exists_of_not_uncut (cut : ¬ Uncut stem entries) :
    ∃ entry ∈ entries, stem <+: entry.key := by
  by_contra absent
  apply cut
  refine List.pairwise_of_forall_mem_list ?_
  intro earlier _ entry member _ begins
  exact absent ⟨entry, member, begins⟩

/-- A scan that is not cut short lists every key that begins with the stem. -/
theorem Uncut.matching_eq (uncut : Uncut stem entries) :
    matching Entry.key stem entries = entries.filter fun entry => stem <+: entry.key := by
  induction entries with
  | nil => rfl
  | cons first rest ih =>
    rw [matching_cons]
    by_cases passed : passes stem first.key = true
    · have none_left : ∀ entry ∈ first :: rest, ¬ stem <+: entry.key := by
        intro entry member
        rcases List.mem_cons.mp member with rfl | later
        · exact not_begins_of_passes passed
        · exact List.rel_of_pairwise_cons uncut later passed
      rw [if_pos passed, List.filter_eq_nil_iff.mpr]
      simpa using none_left
    · have rest_eq := ih ((uncut_cons passed).mp uncut)
      by_cases begins : stem <+: first.key
      · rw [if_neg passed, if_pos (List.isPrefixOf_iff_prefix.mpr begins), rest_eq,
          List.filter_cons_of_pos (by simpa using begins)]
      · rw [if_neg passed, if_neg (mt List.isPrefixOf_iff_prefix.mp begins), rest_eq,
          List.filter_cons_of_neg (by simpa using begins)]

end PrefixScan

open PrefixScan

/-- An order that keeps the keys with a common beginning together: what comes between two of them
begins so too. -/
def Contiguous (order : Comparison) : Prop :=
  ∀ stem low middle high, order low middle = .lt → order middle high = .lt →
    stem <+: low → stem <+: high → stem <+: middle

namespace Contiguous

variable {order : Comparison} {stem : Bytes} {entries : Entries}

/-- Such an order has nothing that begins with the stem before the entry that cuts the scan
short. -/
theorem matching_eq_nil (contiguous : Contiguous order) (ascending : entries.Ascending order)
    (cut : ¬ Uncut stem entries) : matching Entry.key stem entries = [] := by
  induction entries with
  | nil => rfl
  | cons first rest ih =>
    rw [matching_cons]
    by_cases passed : passes stem first.key = true
    · rw [if_pos passed]
    · have rest_cut := mt (uncut_cons passed).mpr cut
      -- or the key that ends the scan would stand between two that begin with the stem
      have unlike : ¬ stem <+: first.key := by
        intro begins
        apply rest_cut
        refine List.pairwise_iff_forall_sublist.mpr ?_
        intro middle later within ends found
        have next := List.rel_of_pairwise_cons ascending (within.subset (List.mem_cons_self ..))
        have last := List.pairwise_iff_forall_sublist.mp ascending.of_cons within
        exact not_begins_of_passes ends (contiguous _ _ _ _ next last begins found)
      rw [if_neg passed, if_neg (mt List.isPrefixOf_iff_prefix.mp unlike)]
      exact ih ascending.of_cons rest_cut

/-- Where a key that ends the scan comes before one that begins with the stem, none that begins so
comes before it. -/
theorem none_before {front rest : Entries} {stopper last : Entry} (contiguous : Contiguous order)
    (ascending : Entries.Ascending order (front ++ stopper :: rest))
    (passed : passes stem stopper.key) (behind : last ∈ rest) (ends : stem <+: last.key) :
    ∀ entry ∈ front, ¬ stem <+: entry.key := by
  intro entry before begins
  obtain ⟨-, back, across⟩ := List.pairwise_append.mp ascending
  have first := across entry before stopper (List.mem_cons_self ..)
  have second := List.rel_of_pairwise_cons back behind
  exact not_begins_of_passes passed (contiguous _ _ _ _ first second begins ends)

theorem reverse (contiguous : Contiguous order) :
    Contiguous fun left right => order right left := by
  intro stem low middle high before after begins ends
  exact contiguous stem high middle low after before ends begins

theorem bytewise : Contiguous Bytes.order := by
  intro stem
  induction stem with
  | nil => exact fun _ _ _ _ _ _ _ => List.nil_prefix
  | cons byte stem ih =>
    rintro _ middle _ before after ⟨low, rfl⟩ ⟨high, rfl⟩
    cases middle with
    | nil => cases before
    | cons other middle =>
      rcases Bytes.order_cons_lt.mp before with above | ⟨rfl, nearer⟩ <;>
        rcases Bytes.order_cons_lt.mp after with below | ⟨same, farther⟩
      · exact absurd below (UInt8.lt_asymm above)
      · exact absurd (same ▸ above) (UInt8.lt_irrefl _)
      · exact absurd below (UInt8.lt_irrefl _)
      · have begins := ih _ _ _ nearer farther (List.prefix_append ..) (List.prefix_append ..)
        exact List.cons_prefix_cons.mpr ⟨rfl, begins⟩

end Contiguous

theorem PrefixScan.order_lt_of_passes {stem key other : Bytes} (passed : passes stem key)
    (begins : stem <+: other) : Bytes.order other key = .lt := by
  obtain ⟨rest, rfl⟩ := begins
  induction stem generalizing key with
  | nil => cases passed
  | cons byte stem ih =>
    cases key with
    | nil => cases passed
    | cons first key =>
      simp only [passes, List.length_cons, List.take_succ_cons, Bool.and_eq_true,
        decide_eq_true_eq, beq_iff_eq, Bytes.order_cons_lt, Nat.add_le_add_iff_right] at passed
      obtain ⟨long, below | ⟨rfl, faced⟩⟩ := passed
      · exact Bytes.order_cons_lt.mpr (.inl below)
      · refine Bytes.order_cons_lt.mpr (.inr ⟨rfl, ih ?_⟩)
        simp [passes, long, faced]

theorem Entries.Ascending.uncut {entries : Entries} (ascending : entries.Ascending Bytes.order)
    (stem : Bytes) : Uncut stem entries := by
  refine List.Pairwise.imp ?_ ascending
  intro earlier later before passed begins
  have after := order_lt_of_passes passed begins
  rw [Std.OrientedCmp.gt_iff_lt.mpr before] at after
  cases after

namespace Entries

variable {order : Comparison} {entries : Entries}

theorem after_eq_filter (start : Bytes) :
    entries.after order start =
      entries.filter fun entry => start = [] ∨ order start entry.key = .lt := by
  cases start with
  | nil => simp [after]
  | cons byte start =>
    rw [after, if_neg (by simp)]
    congr 1
    funext entry
    simp [Bool.beq_eq_decide_eq]

end Entries

/-- Both listings by beginning answer with these entries, one of them with the keys alone. -/
structure Engine.ListsStem {σ : Type} [Engine σ] (state : σ) (start : Bytes) (count : Nat)
    (stem : Bytes) (listed : Entries) : Prop where
  keys : Engine.perform (.listKeys start count stem) state = (.ok (listed.map Entry.key), state)
  pairs : Engine.perform (.listPairs start count stem) state = (.ok listed, state)

theorem MapStore.listsStem (store : MapStore) (start : Bytes) (count : Nat) (stem : Bytes) :
    Engine.ListsStem store start count stem (store.page start count stem) :=
  ⟨rfl, rfl⟩

/-- In a store in memory whose order is a total preorder and keeps the keys with a common beginning
together, a listing by beginning is whole or empty. It is whole exactly when it may list nothing or
no key that ends the scan stands before one with that beginning; and a key that ends the scan before
such a key has none of them before it. -/
theorem stem_listing_whole_or_empty {options : StoreOptions} {store : MapStore}
    (reached : Engine.Reachable ({ options } : MapStore) store)
    (total : Std.TransCmp store.comparison) (contiguous : Contiguous store.comparison)
    (start stem : Bytes) (count : Nat) :
    let later := store.entries.filter fun entry =>
      start = [] ∨ store.comparison start entry.key = .lt
    let found := later.filter fun entry => stem <+: entry.key
    let listed := if Uncut stem later then found.take count else []
    Entries.Ascending store.comparison later ∧
      Engine.ListsStem store start count stem listed ∧
      (listed = found.take count ↔ count = 0 ∨ Uncut stem later) ∧
      ∀ {remaining front stopper rest}, remaining ≠ 0 → later = front ++ stopper :: rest →
        (step ⟨stem, remaining⟩ stopper.key).1 = .stop → (∃ entry ∈ rest, stem <+: entry.key) →
          ∀ entry ∈ front, ¬ stem <+: entry.key := by
  intro later found listed
  have ascending : Entries.Ascending store.comparison later :=
    List.Pairwise.filter _ (MapStore.sorted_of_reachable reached total)
  have page : store.page start count stem = listed := by
    rw [MapStore.page, Entries.page_eq_take, Entries.after_eq_filter]
    by_cases uncut : Uncut stem later
    · rw [uncut.matching_eq]
      exact (if_pos uncut).symm
    · rw [contiguous.matching_eq_nil ascending uncut, List.take_nil]
      exact (if_neg uncut).symm
  refine ⟨ascending, page ▸ store.listsStem start count stem, ?_, ?_⟩
  · by_cases uncut : Uncut stem later
    · exact iff_of_true (if_pos uncut) (.inr uncut)
    · obtain ⟨entry, member, begins⟩ := exists_of_not_uncut uncut
      have nonempty : found ≠ [] :=
        List.ne_nil_of_mem (List.mem_filter.mpr ⟨member, decide_eq_true begins⟩)
      have hidden : listed = [] := if_neg uncut
      rw [hidden, eq_comm, List.take_eq_nil_iff, or_iff_left nonempty, or_iff_left uncut]
  · rintro remaining front stopper rest more whole stops ⟨last, behind, ends⟩
    rw [whole] at ascending
    exact contiguous.none_before ascending ((step_stops_iff more).mp stops) behind ends

/-- The greatest key first. -/
def KeyOrder.reverse : KeyOrder :=
  { name := "reverse", compare := fun left right => Bytes.order right left }

theorem KeyOrder.reverse_total : Std.TransCmp reverse.compare :=
  inferInstanceAs (Std.TransCmp fun left right => Bytes.order right left)

/-- The greatest key first, `ba` and `b` are listed and `a` is not. -/
theorem stem_listing_whole_or_empty_reverse :
    ∃ store : MapStore, Engine.Reachable ({ options := {} } : MapStore) store ∧
      Std.TransCmp store.comparison ∧ Contiguous store.comparison ∧
      Engine.perform (.listKeys [] 2 [98]) store = (.ok [[98, 97], [98]], store) ∧
      Engine.perform (.listKeys [] 2 [97]) store = (.ok [], store) := by
  have begun : Engine.Reachable ({ options := {} } : MapStore) { options := {} } := .start
  have reached := ((begun.installOrder KeyOrder.reverse).perform (.put [97] [])).perform
    (.putMulti [[98], [98, 97]] [[], []])
  have contiguous := Contiguous.bytewise.reverse
  refine ⟨_, reached, KeyOrder.reverse_total, contiguous, ?_, ?_⟩
  · exact (stem_listing_whole_or_empty reached KeyOrder.reverse_total contiguous [] [98] 2).2.1.keys
  · exact (stem_listing_whole_or_empty reached KeyOrder.reverse_total contiguous [] [97] 2).2.1.keys

/-- The greatest key first, `b` ends the scan for `a` before it comes to the key `a`. -/
theorem reverse_order_hides_key :
    ∃ store : MapStore, Engine.Reachable ({ options := {} } : MapStore) store ∧
      Std.TransCmp store.comparison ∧ Contiguous store.comparison ∧
      Engine.perform (.get [97]) store = (.ok (some [118]), store) ∧
      Engine.perform (.listKeys [] 10 [97]) store = (.ok [], store) := by
  have begun : Engine.Reachable ({ options := {} } : MapStore) { options := {} } := .start
  have reached := ((begun.installOrder KeyOrder.reverse).perform (.put [97] [118])).perform
    (.put [98] [118])
  exact ⟨_, reached, KeyOrder.reverse_total, Contiguous.bytewise.reverse, rfl, rfl⟩

/-- A state that holds these entries lists by beginning those of them that come after the start, the
empty key standing before all, and begin with the stem, the first of them up to the count. -/
structure Engine.ListsWhole {σ : Type} [Engine σ] (state : σ) (held : Entries) : Prop where
  ascending : held.Ascending Bytes.order
  get : ∀ key value, ⟨key, value⟩ ∈ held ↔
    Engine.perform (.get key) state = (.ok (some value), state)
  listed : ∀ start count stem, Engine.ListsStem state start count stem ((held.filter fun entry =>
    (start = [] ∨ Bytes.order start entry.key = .lt) ∧ stem <+: entry.key).take count)

theorem Entries.Ascending.page_eq {held : Entries} (ascending : held.Ascending Bytes.order)
    (start : Bytes) (count : Nat) (stem : Bytes) :
    held.page Bytes.order start count stem = (held.filter fun entry =>
      (start = [] ∨ Bytes.order start entry.key = .lt) ∧ stem <+: entry.key).take count := by
  have later : (held.after Bytes.order start).Ascending Bytes.order := by
    rw [Entries.after_eq_filter]
    exact List.Pairwise.filter _ ascending
  rw [Entries.page_eq_take, (later.uncut stem).matching_eq, Entries.after_eq_filter,
    List.filter_filter]
  congr 2
  funext entry
  rw [Bool.decide_and, Bool.and_comm]

theorem MapStore.listsWhole {store : MapStore} (order : store.order = none)
    (ascending : store.entries.Ascending Bytes.order) :
    Engine.ListsWhole store store.entries where
  ascending := ascending
  get := by
    intro key value
    have held : store.get key = store.entries.get key := by
      rw [MapStore.get, Entries.get, MapStore.comparison, order]
    simp only [Engine.perform, MapStore.perform, held, ascending.mem_iff_get, Prod.mk.injEq,
      Except.ok.injEq, and_true]
  listed := by
    intro start count stem
    rw [← ascending.page_eq]
    have page : store.page start count stem =
        store.entries.page Bytes.order start count stem := by
      rw [MapStore.page, MapStore.comparison, order]
    exact page ▸ store.listsStem start count stem

theorem DurableStore.reading_open {τ α : Type} {store : DurableStore τ} {database : OpenDatabase τ}
    (current : store.current = some database) (read : τ → α) :
    store.reading read = (.ok (read database.map), store) := by
  obtain ⟨options, shelf, _⟩ := store
  subst current
  rfl

theorem DurableStore.listsWhole {τ : Type} [ByteMap τ] {sound : τ → Prop}
    (lawful : ByteMap.Lawful sound) {store : DurableStore τ} {database : OpenDatabase τ}
    (current : store.current = some database) (holds : sound database.map) :
    Engine.ListsWhole store (ByteMap.range none none database.map) where
  ascending := lawful.ascending holds
  get := by
    intro key value
    simp only [Engine.perform, perform, reading_open current, lawful.mem_range holds,
      Prod.mk.injEq, Except.ok.injEq, and_true]
  listed := by
    intro start count stem
    rw [← (lawful.ascending holds).page_eq, ← lawful.page_eq holds]
    exact ⟨reading_open current fun map => (page start count stem map).map Entry.key,
      reading_open current (page start count stem)⟩

/-- Whatever they were asked for, a store in memory without an order of its own and a durable store
with an open database list by beginning, from any start, the entries with that beginning, in
ascending order and up to the count. Among a durable store's maps are those its shelf began with. -/
theorem stem_listings_whole {τ : Type} [ByteMap τ] {sound : τ → Prop}
    (lawful : ByteMap.Lawful sound) (options : StoreOptions) {shelf : Shelf τ}
    (shelved : ∀ item ∈ shelf, sound item.2) :
    (∀ store, Engine.Reachable ({ options } : MapStore) store → store.order = none →
        ∃ held, Engine.ListsWhole store held) ∧
      ∀ store, Engine.Reachable ({ options, shelf } : DurableStore τ) store →
        store.current ≠ none → ∃ held, Engine.ListsWhole store held := by
  refine ⟨?_, ?_⟩
  · intro store reached order
    have same : store.comparison = Bytes.order := by rw [MapStore.comparison, order]
    have sorted := MapStore.sorted_of_reachable reached
    rw [MapStore.Sorted, same] at sorted
    exact ⟨_, store.listsWhole order (sorted inferInstance)⟩
  · intro store reached opened
    obtain ⟨database, current⟩ := Option.ne_none_iff_exists'.mp opened
    have holds := DurableStore.sound_of_reachable lawful shelved reached
    exact ⟨_, store.listsWhole lawful current (holds.current database current)⟩

/-- A database that had the key `a` when it was opened, and was given `ab`. -/
theorem stem_listings_whole_left :
    let store : MapStore := (Engine.perform (.put [97] [1]) ({ options := {} } : MapStore)).2
    let shelf : Shelf Entries := [("left", [⟨[97], [1]⟩])]
    let opened := (Engine.openDatabase "left" ({ options := {}, shelf } : DurableStore Entries)).2
    let durable := (Engine.perform (.put [97, 98] [2]) opened).2
    (∃ held, Engine.ListsWhole store held) ∧ (∃ held, Engine.ListsWhole durable held) ∧
      Engine.perform (.listPairs [97] 5 [97]) durable = (.ok [⟨[97, 98], [2]⟩], durable) := by
  intro store shelf opened durable
  have shelved : ∀ item ∈ shelf, item.2.Ascending Bytes.order := by decide
  obtain ⟨memory, lasting⟩ := stem_listings_whole entries_lawful {} shelved
  exact ⟨memory store (.perform _ .start) rfl,
    lasting durable (.perform _ (.openDatabase "left" .start)) (by rintro ⟨⟩), rfl⟩

end KeyDepot
