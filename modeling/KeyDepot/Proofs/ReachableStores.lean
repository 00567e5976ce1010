import KeyDepot.Proofs.EngineAgreement

/-! The states a store can come to, whatever it is asked for. The entries of a store in memory are
ascending under the order it has by then, and every map of a durable store obeys the laws of an
ordered map. -/

namespace KeyDepot

/-- The states an engine comes to from `start`. -/
inductive Engine.Reachable {σ : Type} [Engine σ] (start : σ) : σ → Prop
  | start : Reachable start start
  | openDatabase {state : σ} (name : String) (earlier : Reachable start state) :
      Reachable start (Engine.openDatabase name state).2
  | installOrder {state : σ} (order : KeyOrder) (earlier : Reachable start state) :
      Reachable start (Engine.installOrder order state).2
  | perform {state : σ} (operation : Operation) (earlier : Reachable start state) :
      Reachable start (Engine.perform operation state).2

/-- What each put keeps, a batch of puts keeps, also one that is refused or comes to an error. -/
theorem putBatch_keeps {σ : Type} {keeps : σ → Prop} {put : Bytes → Bytes → σ → Outcome σ Bool}
    (each : ∀ key value {state}, keeps state → keeps (put key value state).2)
    (keys values : List Bytes) {state : σ} (start : keeps state) :
    keeps (putBatch put keys values state).2 := by
  have all (items : List (Bytes × Bytes)) {state : σ} (start : keeps state) :
      keeps (putAll put items state).2 := by
    induction items generalizing state with
    | nil => exact start
    | cons item rest ih =>
      have next := each item.1 item.2 start
      rw [putAll]
      split
      · rename_i error after first
        rwa [first] at next
      · rename_i stored after first
        rw [first] at next
        have last := ih next
        split <;> rename_i others <;> rwa [others] at last
  rw [putBatch]
  split
  · exact all _ start
  · exact start

namespace MapStore

variable {store : MapStore}

/-- The entries are ascending, provided the order is one they can be ascending under. -/
def Sorted (store : MapStore) : Prop :=
  Std.TransCmp store.comparison → store.entries.Ascending store.comparison

theorem sorted_of_empty (empty : store.entries = []) : store.Sorted := by
  intro total
  rw [empty]
  exact List.Pairwise.nil

namespace Sorted

theorem installOrder (sorted : store.Sorted) (order : KeyOrder) :
    (store.installOrder order).2.Sorted := by
  rw [MapStore.installOrder]
  split
  · rename_i empty
    exact sorted_of_empty (List.isEmpty_iff.mp empty)
  · exact sorted

theorem put (sorted : store.Sorted) (key value : Bytes) : (store.put key value).2.Sorted := by
  rw [MapStore.put]
  split
  · exact sorted
  · intro total
    have : Std.TransCmp store.comparison := total
    exact (sorted total).insert

theorem putEach (sorted : store.Sorted) (items : List (Bytes × Bytes)) :
    (store.putEach items).2.Sorted := by
  induction items generalizing store with
  | nil => exact sorted
  | cons item rest ih => exact ih (sorted.put item.1 item.2)

theorem erase (sorted : store.Sorted) (key : Bytes) : (store.erase key).2.Sorted :=
  fun total => (sorted total).erase

theorem perform (sorted : store.Sorted) (operation : Operation) :
    (store.perform operation).2.Sorted := by
  cases operation with
  | put key value => exact sorted.put key value
  | putMulti keys values =>
    rw [MapStore.perform]
    split
    · exact sorted.putEach _
    · exact sorted
  | erase key => exact sorted.erase key
  | get _ | contains _ | listKeys _ _ _ | listPairs _ _ _ | keyRange _ _ _ | pairRange _ _ _
  | sync => exact sorted

end Sorted

/-- An order is only ever installed on a store without keys, so the entries of a store are ascending
under the order it has by then. -/
theorem sorted_of_reachable {options : StoreOptions}
    (reached : Engine.Reachable ({ options } : MapStore) store) : store.Sorted := by
  induction reached with
  | start => exact sorted_of_empty rfl
  | openDatabase name _ _ => exact sorted_of_empty rfl
  | installOrder order _ sorted => exact sorted.installOrder order
  | perform operation _ sorted => exact sorted.perform operation

theorem get_of_mem [Std.TransCmp store.comparison]
    (ascending : store.entries.Ascending store.comparison) {entry : Entry}
    (member : entry ∈ store.entries) : store.get entry.key = some entry.value := by
  rw [get, ascending.mem_iff.mp member]
  rfl

end MapStore

namespace DurableStore

variable {τ : Type} {sound : τ → Prop} {store : DurableStore τ}

/-- Every map of the store is sound: those on the shelf and the one that is open. -/
structure Sound (sound : τ → Prop) (store : DurableStore τ) : Prop where
  shelf : ∀ item ∈ store.shelf, sound item.2
  current : ∀ database, store.current = some database → sound database.map

namespace Sound

theorem leave (holds : store.Sound sound) : ∀ item ∈ store.leave, sound item.2 := by
  rw [DurableStore.leave]
  split
  · exact holds.shelf
  · rename_i database current
    split
    · exact holds.shelf
    · intro item member
      rcases List.mem_cons.mp member with rfl | old
      · exact holds.current database current
      · exact holds.shelf item (List.mem_of_mem_filter old)

theorem openDatabase [ByteMap τ] (holds : store.Sound sound) (lawful : ByteMap.Lawful sound)
    (name : String) : (store.openDatabase name).Sound sound where
  shelf := holds.leave
  current := by
    intro database current
    obtain rfl := Option.some.inj current
    dsimp only
    split
    · exact lawful.blank
    · rw [Shelf.find]
      cases found : store.leave.lookup name with
      | none => exact lawful.blank
      | some map =>
        obtain ⟨front, back, whole, -⟩ := List.lookup_eq_some_iff.mp found
        have member : (name, map) ∈ store.leave := by simp [whole]
        exact holds.leave _ member

theorem withMap {α : Type} {run : τ → α × τ} (holds : store.Sound sound)
    (keeps : ∀ {map}, sound map → sound (run map).2) : (store.withMap run).2.Sound sound := by
  rw [DurableStore.withMap]
  split
  · exact holds
  · rename_i database current
    refine ⟨holds.shelf, ?_⟩
    intro later same
    obtain rfl := Option.some.inj same
    exact keeps (holds.current database current)

variable [ByteMap τ]

theorem put (holds : store.Sound sound) (lawful : ByteMap.Lawful sound) (key value : Bytes) :
    (store.put key value).2.Sound sound := by
  apply holds.withMap
  intro map still
  rw [putValue]
  split
  · exact lawful.swap still
  · exact lawful.insert still

theorem perform (holds : store.Sound sound) (lawful : ByteMap.Lawful sound)
    (operation : Operation) : (store.perform operation).2.Sound sound := by
  cases operation with
  | put key value => exact holds.put lawful key value
  | putMulti keys values =>
    have each (key value : Bytes) {store : DurableStore τ} (holds : store.Sound sound) :=
      holds.put lawful key value
    exact putBatch_keeps each keys values holds
  | erase key => exact holds.withMap fun still => lawful.remove still
  | get _ | contains _ | listKeys _ _ _ | listPairs _ _ _ | keyRange _ _ _ | pairRange _ _ _
  | sync => exact holds.withMap fun still => still

end Sound

variable [ByteMap τ]

/-- Every map of a store comes from the shelf it began with, or was blank, by the operations of an
ordered map. -/
theorem sound_of_reachable (lawful : ByteMap.Lawful sound) {options : StoreOptions}
    {shelf : Shelf τ} (shelved : ∀ item ∈ shelf, sound item.2)
    (reached : Engine.Reachable ({ options, shelf } : DurableStore τ) store) :
    store.Sound sound := by
  induction reached with
  | start => exact ⟨shelved, fun _ opened => by cases opened⟩
  | openDatabase name _ holds => exact holds.openDatabase lawful name
  | installOrder order _ holds => exact holds
  | perform operation _ holds => exact holds.perform lawful operation

end DurableStore

end KeyDepot
