import KeyDepot.Proofs.ReachableStores

namespace KeyDepot

/-- What belongs to one of two parts, the second of which has nothing before the first, is the one
part and then the other. -/
theorem filter_eq_append {α : Type} {whole front back : α → Bool} {items : List α}
    (either : ∀ item ∈ items, whole item = (front item || back item))
    (apart : ∀ item ∈ items, back item → ¬ front item)
    (behind : items.Pairwise fun earlier later => back earlier → ¬ front later) :
    items.filter whole = items.filter front ++ items.filter back := by
  induction items with
  | nil => rfl
  | cons item rest ih =>
    obtain ⟨here, either⟩ := List.forall_mem_cons.mp either
    obtain ⟨alone, apart⟩ := List.forall_mem_cons.mp apart
    obtain ⟨none_later, behind⟩ := List.pairwise_cons.mp behind
    have joined := ih either apart behind
    cases second : back item with
    | true =>
      -- past this item nothing belongs to the first part any more
      have first : front item = false := Bool.eq_false_iff.mpr (alone second)
      have none_front : rest.filter front = [] :=
        List.filter_eq_nil_iff.mpr fun later member => none_later later member second
      rw [none_front, List.nil_append] at joined
      simp [here, first, second, none_front, joined]
    | false =>
      cases first : front item <;> simp [here, first, second, joined]

namespace Entries

variable {order : Comparison} [Std.TransCmp order] {entries : Entries} {lower middle upper : Bytes}

theorem between_eq_filter (lower upper : Bytes) (entries : Entries) :
    entries.between order lower upper = entries.filter fun entry =>
      order lower entry.key = .lt ∧ (order entry.key upper).isLE := by
  rw [between]
  split
  · congr 1
    funext entry
    have swapped : order upper entry.key = (order entry.key upper).swap := Std.OrientedCmp.eq_swap
    rw [swapped]
    cases order lower entry.key <;> cases order entry.key upper <;> rfl
  · rename_i inverted
    refine (List.filter_eq_nil_iff.mpr ?_).symm
    intro entry member
    simp only [decide_eq_true_eq]
    rintro ⟨above, below⟩
    exact inverted (Std.TransCmp.lt_of_lt_of_isLE above below)

theorem Ascending.between_append (ascending : entries.Ascending order)
    (first : (order lower middle).isLE) (second : (order middle upper).isLE) :
    entries.between order lower upper =
      entries.between order lower middle ++ entries.between order middle upper := by
  rw [between_eq_filter, between_eq_filter, between_eq_filter]
  apply filter_eq_append
  · intro entry _
    rw [← Bool.decide_or]
    apply decide_eq_decide.mpr
    constructor
    · rintro ⟨above, below⟩
      by_cases reached : (order entry.key middle).isLE
      · exact .inl ⟨above, reached⟩
      · exact .inr ⟨Std.OrientedCmp.lt_of_not_isLE reached, below⟩
    · rintro (⟨above, below⟩ | ⟨above, below⟩)
      · exact ⟨above, Std.TransCmp.isLE_trans below second⟩
      · exact ⟨Std.TransCmp.lt_of_isLE_of_lt first above, below⟩
  · simp only [decide_eq_true_eq]
    rintro entry _ ⟨past, -⟩ ⟨-, reached⟩
    exact Std.OrientedCmp.not_isLE_of_lt past reached
  · refine List.Pairwise.imp ?_ ascending
    simp only [decide_eq_true_eq]
    rintro earlier later before ⟨past, -⟩ ⟨-, reached⟩
    exact Std.OrientedCmp.not_isLE_of_lt (Std.TransCmp.lt_trans past before) reached

end Entries

/-- Both listings between two bounds answer with these entries, one of them with the keys alone. -/
structure Engine.ListsRange {σ : Type} [Engine σ] (state : σ) (lower upper : Bytes) (limit : Nat)
    (listed : Entries) : Prop where
  keys : Engine.perform (.keyRange lower upper limit) state = (.ok (listed.map Entry.key), state)
  pairs : Engine.perform (.pairRange lower upper limit) state = (.ok listed, state)

theorem MapStore.listsRange (store : MapStore) (lower upper : Bytes) (limit : Nat) :
    Engine.ListsRange store lower upper limit (store.range lower upper limit) :=
  ⟨rfl, rfl⟩

/-- In a store in memory whose order is a total preorder, a listing between two bounds is that of
the entries whose keys come after the lower bound and not after the upper one, each under the key
that leads to it; a limit cuts it unless it is zero. It is empty when the lower bound does not come
before the upper one, and at any bound between them it is cut in two listings. -/
theorem range_listings_join {options : StoreOptions} {store : MapStore}
    (reached : Engine.Reachable ({ options } : MapStore) store)
    (total : Std.TransCmp store.comparison) (lower upper : Bytes) (limit : Nat) :
    let order := store.comparison
    let inside := store.entries.filter fun entry =>
      order lower entry.key = .lt ∧ (order entry.key upper).isLE
    let listed := if limit = 0 then inside else inside.take limit
    Entries.Ascending order listed ∧ Engine.ListsRange store lower upper limit listed ∧
      (∀ entry ∈ listed,
        Engine.perform (.get entry.key) store = (.ok (some entry.value), store)) ∧
      (order lower upper ≠ .lt → listed = []) ∧
      ∀ middle, (order lower middle).isLE → (order middle upper).isLE → ∃ front back,
        Engine.ListsRange store lower middle 0 front ∧
          Engine.ListsRange store middle upper 0 back ∧
          Engine.ListsRange store lower upper 0 (front ++ back) := by
  intro order inside listed
  have ascending : store.entries.Ascending order := MapStore.sorted_of_reachable reached total
  have between : store.entries.between order lower upper = inside :=
    Entries.between_eq_filter lower upper store.entries
  have range : store.range lower upper limit = listed := by
    rw [MapStore.range, Entries.range, between]
  have within : listed.Sublist store.entries := by
    dsimp only [listed]
    split
    · exact List.filter_sublist
    · exact (List.take_sublist ..).trans List.filter_sublist
  refine ⟨List.Pairwise.sublist within ascending, range ▸ store.listsRange lower upper limit,
    ?_, ?_, ?_⟩
  · intro entry member
    have found := MapStore.get_of_mem ascending (within.subset member)
    simp only [Engine.perform, MapStore.perform, found]
  · intro inverted
    have vacant : inside = [] := by rw [← between, Entries.between, if_neg inverted]
    simp only [listed, vacant, List.take_nil, ite_self]
  · intro middle first second
    refine ⟨store.range lower middle 0, store.range middle upper 0,
      store.listsRange lower middle 0, store.listsRange middle upper 0, ?_⟩
    have joined : store.range lower upper 0 =
        store.range lower middle 0 ++ store.range middle upper 0 :=
      ascending.between_append first second
    exact joined ▸ store.listsRange lower upper 0

/-- Where only the first byte counts, what lies after `ax` and not after `cx` is found at `ba` and
at `ca`, and each of the two in its own part. -/
theorem range_listings_join_first :
    let first : KeyOrder := { name := "first", compare := KeyOrder.byFirst }
    let empty := (Engine.installOrder first ({ options := {} } : MapStore)).2
    let store := (Engine.perform (.putMulti [[97], [98, 97], [99, 97]] [[1], [2], [3]]) empty).2
    Engine.Reachable ({ options := {} } : MapStore) store ∧ Std.TransCmp store.comparison ∧
      Engine.ListsRange store [97, 120] [99, 120] 0 [⟨[98, 97], [2]⟩, ⟨[99, 97], [3]⟩] ∧
      ∃ front back, Engine.ListsRange store [97, 120] [98] 0 front ∧
        Engine.ListsRange store [98] [99, 120] 0 back ∧
        Engine.ListsRange store [97, 120] [99, 120] 0 (front ++ back) := by
  intro first empty store
  have reached : Engine.Reachable ({ options := {} } : MapStore) store :=
    .perform _ (.installOrder first .start)
  have total : Std.TransCmp store.comparison := KeyOrder.total_on (List.take 1)
  obtain ⟨-, listed, -, -, joins⟩ := range_listings_join reached total [97, 120] [99, 120] 0
  exact ⟨reached, total, listed, joins [98] rfl rfl⟩

end KeyDepot
