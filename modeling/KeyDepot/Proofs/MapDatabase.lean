import Mathlib.Algebra.Order.Ring.Nat
import KeyDepot.Proofs.ServerLookup
import KeyDepot.Storage.Store

namespace KeyDepot

namespace PrefixScan

/-- A step counts a key that is taken, and leaves the scan as it is for a key that is passed
over. -/
theorem step_counts (scan : PrefixScan) (key : Bytes) :
    match scan.step key with
    | (.take, later) => later.remaining + 1 = scan.remaining
    | (.skip, later) => later = scan
    | (.stop, _) => True := by
  by_cases done : scan.remaining = 0
  · simp [step, done]
  by_cases short : key.length < scan.stem.length
  · simp [step, done, short]
  cases faced : Bytes.order scan.stem (key.take scan.stem.length) with
  | lt => simp [step, done, short, faced]
  | eq => simp [step, done, short, faced, Nat.sub_add_cancel (Nat.pos_of_ne_zero done)]
  | gt => simp [step, done, short, faced]

theorem length_select_le {α : Type} (key : α → Bytes) (scan : PrefixScan) (items : List α) :
    (scan.select key items).length ≤ scan.remaining := by
  induction items generalizing scan with
  | nil => simp [select]
  | cons item items ih =>
    have counts := scan.step_counts (key item)
    rw [select]
    split <;> rename_i later step <;> rw [step] at counts
    · have rest := ih later
      simp only [List.length_cons]
      omega
    · obtain rfl : later = scan := counts
      exact ih later
    · simp

theorem mem_of_select {α : Type} {key : α → Bytes} {scan : PrefixScan} {items : List α} {item : α}
    (listed : item ∈ scan.select key items) : item ∈ items := by
  induction items generalizing scan with
  | nil => simp [select] at listed
  | cons first rest ih =>
    rw [select] at listed
    split at listed
    · rcases List.mem_cons.mp listed with rfl | later
      · exact List.mem_cons_self ..
      · exact List.mem_cons_of_mem first (ih later)
    · exact List.mem_cons_of_mem first (ih listed)
    · cases listed

end PrefixScan

namespace Entries

variable {order : Comparison} {key value : Bytes} {entries : Entries}

theorem mem_insert {entry : Entry} (member : entry ∈ entries.insert order key value) :
    entry.value = value ∨ entry ∈ entries := by
  induction entries with
  | nil => exact .inl (by simp_all [insert])
  | cons first rest ih =>
    rw [insert] at member
    split at member
    · rcases List.mem_cons.mp member with rfl | old
      · exact .inl rfl
      · exact .inr old
    · rcases List.mem_cons.mp member with rfl | old
      · exact .inl rfl
      · exact .inr (List.mem_cons_of_mem _ old)
    · rcases List.mem_cons.mp member with rfl | later
      · exact .inr (List.mem_cons_self ..)
      · exact (ih later).imp_right (List.mem_cons_of_mem _)

/-- A key that is equal to itself is found with the value put under it. -/
theorem find?_insert (same : order key key = .eq) :
    ((entries.insert order key value).find? order key).map Entry.value = some value := by
  induction entries with
  | nil => simp [insert, find?, same]
  | cons first rest ih =>
    rw [insert]
    split
    · simp [find?, same]
    · rename_i equal
      simp [find?, equal]
    · rename_i greater
      simpa [find?, greater] using ih

end Entries

namespace MapStore

/-- The length of every value is one that a sequence can have. -/
def Counted (store : MapStore) : Prop :=
  ∀ entry ∈ store.entries, entry.value.length ≤ Bytes.maxLength

instance (store : MapStore) : Decidable store.Counted :=
  inferInstanceAs (Decidable (∀ entry ∈ store.entries, _ ≤ _))

/-- The length of every key is one that a sequence can have. -/
def KeysCounted (store : MapStore) : Prop :=
  ∀ entry ∈ store.entries, entry.key.length ≤ Bytes.maxLength

instance (store : MapStore) : Decidable store.KeysCounted :=
  inferInstanceAs (Decidable (∀ entry ∈ store.entries, _ ≤ _))

theorem Counted.put {store : MapStore} (counted : store.Counted) {value : Bytes}
    (counts : value.length ≤ Bytes.maxLength) (key : Bytes) :
    (store.put key value).2.Counted := by
  simp only [MapStore.put]
  split
  · exact counted
  · intro entry member
    rcases Entries.mem_insert member with rfl | old
    · exact counts
    · exact counted entry old

theorem Counted.erase {store : MapStore} (counted : store.Counted) (key : Bytes) :
    (store.erase key).2.Counted :=
  fun entry member => counted entry (List.mem_of_mem_eraseP member)

theorem Counted.get {store : MapStore} (counted : store.Counted) {key value : Bytes}
    (found : store.get key = some value) : value.length ≤ Bytes.maxLength := by
  obtain ⟨entry, held, rfl⟩ := Option.map_eq_some_iff.mp found
  exact counted entry (List.mem_of_find?_eq_some held)

theorem length_page_le (start : Bytes) (count : Nat) (stem : Bytes) (store : MapStore) :
    (store.page start count stem).length ≤ count :=
  PrefixScan.length_select_le Entry.key ⟨stem, count⟩ _

theorem mem_of_page {start : Bytes} {count : Nat} {stem : Bytes} {store : MapStore} {entry : Entry}
    (listed : entry ∈ store.page start count stem) : entry ∈ store.entries := by
  have after := PrefixScan.mem_of_select listed
  simp only [Entries.after] at after
  split at after
  · exact after
  · exact (List.mem_filter.mp after).1

theorem perform_sound (operation : Operation) (store : MapStore) :
    Database.poisons (store.perform operation).1 = false := by
  cases operation <;> simp only [perform] <;> try rfl
  split <;> rfl

end MapStore

namespace Database

/-- A database that has not failed and whose engine is this map. -/
structure Maps (db : Database Store) (store : MapStore) : Prop where
  engine : db.store = .map store
  sound : db.poisoned = false

variable {db : Database Store} {store : MapStore}

theorem Maps.perform (maps : db.Maps store) (operation : Operation) :
    db.perform operation =
      ((store.perform operation).1, { db with store := .map (store.perform operation).2 }) := by
  obtain ⟨id, config, engine, poisoned⟩ := db
  obtain ⟨rfl, rfl⟩ : engine = .map store ∧ poisoned = false := ⟨maps.engine, maps.sound⟩
  have performed : Engine.perform operation (Store.map store) =
      ((store.perform operation).1, Store.map (store.perform operation).2) := rfl
  simp only [Database.perform, performed, Bool.false_eq_true, if_false,
    MapStore.perform_sound operation store]

theorem Maps.put (maps : db.Maps store) (key value : Bytes) :
    (db.perform (.put key value)).1 = .ok (store.put key value).1 := by
  rw [maps.perform]
  rfl

theorem Maps.get (maps : db.Maps store) (key : Bytes) :
    (db.perform (.get key)).1 = .ok (store.get key) := by
  rw [maps.perform]
  rfl

theorem Maps.erase (maps : db.Maps store) (key : Bytes) :
    (db.perform (.erase key)).1 = .ok (store.erase key).1 := by
  rw [maps.perform]
  rfl

theorem Maps.listKeys (maps : db.Maps store) (start : Bytes) (count : Nat) (stem : Bytes) :
    db.perform (.listKeys start count stem) =
      (.ok ((store.page start count stem).map Entry.key), db) := by
  rw [maps.perform, MapStore.perform, ← maps.engine]

theorem Maps.listPairs (maps : db.Maps store) (start : Bytes) (count : Nat) (stem : Bytes) :
    db.perform (.listPairs start count stem) = (.ok (store.page start count stem), db) := by
  rw [maps.perform, MapStore.perform, ← maps.engine]

theorem Maps.after (maps : db.Maps store) (operation : Operation) :
    (db.perform operation).2.Maps (store.perform operation).2 := by
  rw [maps.perform]
  exact ⟨rfl, maps.sound⟩

theorem ofEngine_maps (store : MapStore) : (ofEngine (Store.map store)).Maps store := ⟨rfl, rfl⟩

end Database

end KeyDepot
