import Mathlib.Data.Finmap
import KeyDepot.Proofs.KeyClasses
import KeyDepot.Proofs.Runs
import KeyDepot.Proofs.SortedEntries

namespace KeyDepot

/-- Entries by the class of their key. -/
structure ClassMap where
  options : StoreOptions
  order : TotalOrder := .bytewise
  held : Finmap fun _ : order.Class => Entry := ∅

namespace ClassMap

/-- The entry held for the class of a key. -/
def find? (key : Bytes) (map : ClassMap) : Option Entry :=
  map.held.lookup (map.order.classOf key)

/-- The number of classes held. -/
def size (map : ClassMap) : Nat := map.held.keys.card

/-- Holds an entry for the class of a key. -/
def hold (key : Bytes) (entry : Entry) (map : ClassMap) : ClassMap :=
  { map with held := map.held.insert (map.order.classOf key) entry }

def clear (map : ClassMap) : ClassMap := { map with held := ∅ }

def installOrder (order : TotalOrder) (map : ClassMap) : Outcome ClassMap Unit :=
  if map.size = 0 then (.ok (), { options := map.options, order })
  else (.error (.invalidArgument (.orderOnEntries order.name map.size)), map)

/-- A new class is held with the key and the value of the put. A class that is held keeps its key,
and its value too when the options reject what exists. -/
def put (key value : Bytes) (map : ClassMap) : Outcome ClassMap Bool :=
  match map.find? key with
  | none => (.ok true, map.hold key ⟨key, value⟩)
  | some old =>
    if map.options.rejectsExisting then (.ok false, map)
    else (.ok true, map.hold key { old with value })

def erase (key : Bytes) (map : ClassMap) : Outcome ClassMap Bool :=
  (.ok (map.find? key).isSome, { map with held := map.held.erase (map.order.classOf key) })

variable {map : ClassMap} {key other : Bytes}

theorem find?_hold_same {entry : Entry} (same : map.order.compare other key = .eq) :
    (map.hold key entry).find? other = some entry := by
  have alike := map.order.classOf_eq_iff.mpr same
  show (map.held.insert (map.order.classOf key) entry).lookup (map.order.classOf other) = some entry
  rw [alike, Finmap.lookup_insert]

theorem find?_hold_other {entry : Entry} (apart : map.order.compare other key ≠ .eq) :
    (map.hold key entry).find? other = map.find? other :=
  Finmap.lookup_insert_of_ne map.held fun alike => apart (map.order.classOf_eq_iff.mp alike)

theorem find?_erase_same (same : map.order.compare other key = .eq) :
    (map.erase key).2.find? other = none := by
  have alike := map.order.classOf_eq_iff.mpr same
  show (map.held.erase (map.order.classOf key)).lookup (map.order.classOf other) = none
  rw [alike, Finmap.lookup_erase]

theorem find?_erase_other (apart : map.order.compare other key ≠ .eq) :
    (map.erase key).2.find? other = map.find? other :=
  Finmap.lookup_erase_ne fun alike => apart (map.order.classOf_eq_iff.mp alike)

end ClassMap

/-- What a store is asked for, listings apart. -/
inductive StoreStep where
  | openDatabase (name : String)
  | installOrder (order : TotalOrder)
  | put (key value : Bytes)
  | putMulti (keys values : List Bytes)
  | get (key : Bytes)
  | contains (key : Bytes)
  | erase (key : Bytes)

namespace StoreStep

/-- The type of the answer to a step. -/
@[reducible] def Answer : StoreStep → Type
  | openDatabase _ | installOrder _ => Unit
  | put .. | contains _ | erase _ => Bool
  | putMulti .. => List Bool
  | get _ => Option Bytes

/-- The step as an engine makes it. -/
def onEngine {σ : Type} [Engine σ] : (step : StoreStep) → σ → Outcome σ step.Answer
  | openDatabase name, state => Engine.openDatabase name state
  | installOrder order, state => Engine.installOrder order.toKeyOrder state
  | put key value, state => Engine.perform (.put key value) state
  | putMulti keys values, state => Engine.perform (.putMulti keys values) state
  | get key, state => Engine.perform (.get key) state
  | contains key, state => Engine.perform (.contains key) state
  | erase key, state => Engine.perform (.erase key) state

/-- The step as the plain map makes it. -/
def onClasses : (step : StoreStep) → ClassMap → Outcome ClassMap step.Answer
  | openDatabase _, map => (.ok (), map.clear)
  | installOrder order, map => map.installOrder order
  | put key value, map => map.put key value
  | putMulti keys values, map => putBatch ClassMap.put keys values map
  | get key, map => (.ok ((map.find? key).map Entry.value), map)
  | contains key, map => (.ok (map.find? key).isSome, map)
  | erase key, map => map.erase key

end StoreStep

/-- The entries of a store are ascending and are those the map holds. -/
structure ClassMap.Holds (map : ClassMap) (store : MapStore) : Prop where
  options : store.options = map.options
  order : store.comparison = map.order.compare
  ascending : store.entries.Ascending map.order.compare
  found : ∀ key, store.entries.find? map.order.compare key = map.find? key

namespace ClassMap.Holds

variable {map : ClassMap} {store : MapStore}

theorem fresh (options : StoreOptions) :
    ({ options } : ClassMap).Holds ({ options } : MapStore) where
  options := rfl
  order := rfl
  ascending := List.Pairwise.nil
  found _ := rfl

theorem mem_iff (holds : map.Holds store) {entry : Entry} :
    entry ∈ store.entries ↔ map.find? entry.key = some entry := by
  rw [← holds.found]
  exact holds.ascending.mem_iff

theorem mem_held_iff (holds : map.Holds store) {key : Bytes} :
    map.order.classOf key ∈ map.held ↔
      ∃ entry ∈ store.entries, map.order.classOf entry.key = map.order.classOf key := by
  rw [Finmap.mem_iff]
  constructor
  · rintro ⟨entry, held⟩
    have found : store.entries.find? map.order.compare key = some entry :=
      (holds.found key).trans held
    have alike := List.find?_some found
    exact ⟨entry, List.mem_of_find?_eq_some found,
      (map.order.classOf_eq_iff.mpr (beq_iff_eq.mp alike)).symm⟩
  · rintro ⟨entry, member, alike⟩
    exact ⟨entry, alike ▸ holds.mem_iff.mp member⟩

/-- Different entries are of different classes, so there are as many of one as of the other. -/
theorem size (holds : map.Holds store) : store.size = map.size := by
  let classes := store.entries.map fun entry => map.order.classOf entry.key
  have apart : classes.Nodup := by
    refine List.pairwise_map.mpr (holds.ascending.imp ?_)
    intro left right before same
    rw [map.order.classOf_eq_iff.mp same] at before
    cases before
  have same : map.held.keys = classes.toFinset := by
    ext class_
    obtain ⟨key, rfl⟩ := Quotient.exists_rep class_
    rw [Finmap.mem_keys, List.mem_toFinset, List.mem_map]
    exact holds.mem_held_iff
  rw [ClassMap.size, same, List.toFinset_card_of_nodup apart, List.length_map]
  rfl

theorem clear (holds : map.Holds store) (name : String) :
    map.clear.Holds (store.openDatabase name) where
  options := holds.options
  order := holds.order
  ascending := List.Pairwise.nil
  found _ := rfl

theorem installOrder (holds : map.Holds store) (order : TotalOrder) :
    (store.installOrder order.toKeyOrder).1 = (map.installOrder order).1 ∧
      (map.installOrder order).2.Holds (store.installOrder order.toKeyOrder).2 := by
  have count := holds.size
  cases entries : store.entries with
  | nil =>
    have empty : map.size = 0 := by rw [← count, MapStore.size, entries]; rfl
    simp only [MapStore.installOrder, ClassMap.installOrder, entries, if_pos empty,
      List.isEmpty_nil, if_true, true_and]
    exact
      { options := holds.options
        order := rfl
        ascending := List.Pairwise.nil
        found := fun _ => rfl }
  | cons first rest =>
    have some_ : map.size ≠ 0 := by rw [← count, MapStore.size, entries]; simp
    simp only [MapStore.installOrder, ClassMap.installOrder, entries, if_neg some_,
      List.isEmpty_cons, Bool.false_eq_true, if_false, count, true_and]
    exact holds

/-- Both hold one entry more, or another one for the class of the key. -/
theorem insert (holds : map.Holds store) {key value : Bytes} {entry : Entry}
    (new : ∀ other, map.order.compare other key = .eq →
      (store.entries.insert map.order.compare key value).find? map.order.compare other =
        some entry) :
    (map.hold key entry).Holds
      { store with entries := store.entries.insert store.comparison key value } where
  options := holds.options
  order := holds.order
  ascending := by
    rw [holds.order]
    exact holds.ascending.insert
  found other := by
    rw [holds.order]
    by_cases same : map.order.compare other key = .eq
    · rw [find?_hold_same same]
      exact new other same
    · rw [find?_hold_other same, ← holds.found]
      exact Entries.find?_insert_other same

theorem put (holds : map.Holds store) (key value : Bytes) :
    (.ok (store.put key value).1 : Except Error Bool) = (map.put key value).1 ∧
      (map.put key value).2.Holds (store.put key value).2 := by
  have found := holds.found key
  cases held : map.find? key with
  | none =>
    have stored : store.put key value =
        (true, { store with entries := store.entries.insert store.comparison key value }) := by
      simp [MapStore.put, holds.order, found, held]
    have mapped : map.put key value = (.ok true, map.hold key ⟨key, value⟩) := by
      simp only [ClassMap.put, held]
    rw [stored, mapped]
    exact ⟨rfl, holds.insert fun other same =>
      Entries.find?_insert_absent (found.trans held) same⟩
  | some old =>
    by_cases rejects : map.options.rejectsExisting = true
    · have stored : store.put key value = (false, store) := by
        simp [MapStore.put, holds.order, holds.options, found, held, rejects]
      have mapped : map.put key value = (.ok false, map) := by
        simp only [ClassMap.put, held, if_pos rejects]
      rw [stored, mapped]
      exact ⟨rfl, holds⟩
    · have stored : store.put key value =
          (true, { store with entries := store.entries.insert store.comparison key value }) := by
        simp [MapStore.put, holds.options, rejects]
      have mapped : map.put key value = (.ok true, map.hold key { old with value }) := by
        simp only [ClassMap.put, held, if_neg rejects]
      rw [stored, mapped]
      exact ⟨rfl, holds.insert fun other same =>
        holds.ascending.find?_insert_present (found.trans held) same⟩

theorem erase (holds : map.Holds store) (key : Bytes) :
    (.ok (store.erase key).1 : Except Error Bool) = (map.erase key).1 ∧
      (map.erase key).2.Holds (store.erase key).2 := by
  have found := holds.found key
  refine ⟨?_, ?_⟩
  · simp only [MapStore.erase, MapStore.contains, ClassMap.erase, holds.order, found]
  · exact
      { options := holds.options
        order := holds.order
        ascending := by
          simp only [MapStore.erase, holds.order]
          exact holds.ascending.erase
        found := by
          intro other
          simp only [MapStore.erase, holds.order]
          by_cases same : map.order.compare other key = .eq
          · rw [find?_erase_same same]
            exact holds.ascending.find?_erase_same same
          · rw [find?_erase_other same, ← holds.found]
            exact Entries.find?_erase_other same }

theorem step (holds : map.Holds store) (step : StoreStep) :
    (step.onEngine store).1 = (step.onClasses map).1 ∧
      (step.onClasses map).2.Holds (step.onEngine store).2 := by
  cases step with
  | openDatabase name => exact ⟨rfl, holds.clear name⟩
  | installOrder order => exact holds.installOrder order
  | put key value => exact holds.put key value
  | putMulti keys values =>
    have each (key value : Bytes) {store : MapStore} {map : ClassMap} (holds : map.Holds store) :=
      holds.put key value
    exact MapStore.putMulti_agree each keys values holds
  | get key =>
    refine ⟨?_, holds⟩
    simp only [StoreStep.onEngine, StoreStep.onClasses, Engine.perform, MapStore.perform,
      MapStore.get, holds.order, holds.found]
  | contains key =>
    refine ⟨?_, holds⟩
    simp only [StoreStep.onEngine, StoreStep.onClasses, Engine.perform, MapStore.perform,
      MapStore.contains, holds.order, holds.found]
  | erase key => exact holds.erase key

/-- After any run from the beginning, the store has the entries that the map holds. -/
theorem run (options : StoreOptions) (steps : List StoreStep) :
    (feed StoreStep.onClasses steps ({ options } : ClassMap)).2.Holds
      (feed StoreStep.onEngine steps ({ options } : MapStore)).2 := by
  have each (step : StoreStep) {store : MapStore} {map : ClassMap} (holds : map.Holds store) :=
    holds.step step
  exact (feed_agree each steps (fresh options)).2

/-- A store that was made and used under total preorders compares keys by one. -/
theorem total (holds : map.Holds store) : Std.TransCmp store.comparison := by
  rw [holds.order]
  infer_instance

end ClassMap.Holds

/-- A store in memory is a map from classes of keys to entries. Whatever it is asked for from its
beginning, it answers as that map does, its entries are strictly ascending under the order it has by
then, and they are those the map holds, one for each class. -/
theorem run_eq_classMap (options : StoreOptions) (steps : List StoreStep) :
    let (answers, store) := feed StoreStep.onEngine steps ({ options } : MapStore)
    let (expected, map) := feed StoreStep.onClasses steps ({ options } : ClassMap)
    answers = expected ∧ store.comparison = map.order.compare ∧
      store.entries.Ascending store.comparison ∧ store.size = map.size ∧
      ∀ entry, entry ∈ store.entries ↔ map.find? entry.key = some entry := by
  have each (step : StoreStep) {store : MapStore} {map : ClassMap} (holds : map.Holds store) :=
    holds.step step
  obtain ⟨answers, holds⟩ := feed_agree each steps (ClassMap.Holds.fresh options)
  refine ⟨answers, holds.order, ?_, holds.size, fun entry => holds.mem_iff⟩
  rw [holds.order]
  exact holds.ascending

/-- Where only the first byte counts, `ac` overwrites the value of `ab` and leaves its key. -/
example :
    let first : TotalOrder :=
      { name := "first", compare := KeyOrder.byFirst, total := KeyOrder.total_on (List.take 1) }
    (feed StoreStep.onEngine
      [.installOrder first, .put [97, 98] [1], .put [97, 99] [2]]
      ({ options := { duplicates := .allow } } : MapStore)).2.entries = [⟨[97, 98], [2]⟩] := rfl

end KeyDepot
