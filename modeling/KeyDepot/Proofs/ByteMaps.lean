import Mathlib.Data.List.Nodup
import KeyDepot.Proofs.KeyClasses
import KeyDepot.Proofs.SortedEntries
import KeyDepot.Storage.ByteMap

namespace KeyDepot

namespace Entries

variable {key other value : Bytes} {entries : Entries}

theorem key_of_find? {entry : Entry} (found : entries.find? Bytes.order key = some entry) :
    entry.key = key := by
  rw [find?] at found
  have same := List.find?_some found
  exact (Std.LawfulEqCmp.eq_of_compare (beq_iff_eq.mp same)).symm

theorem Ascending.find?_insert_bytewise (ascending : entries.Ascending Bytes.order) :
    (entries.insert Bytes.order key value).find? Bytes.order other =
      if other = key then some ⟨key, value⟩ else entries.find? Bytes.order other := by
  by_cases same : other = key
  · subst same
    have itself : Bytes.order other other = .eq := Std.ReflCmp.compare_self
    rw [if_pos rfl]
    cases held : entries.find? Bytes.order other with
    | none => exact find?_insert_absent held itself
    | some old =>
      rw [ascending.find?_insert_present held itself, ← key_of_find? held]
  · rw [if_neg same]
    exact find?_insert_other (mt Std.LawfulEqCmp.eq_of_compare same)

theorem Ascending.find?_erase_bytewise (ascending : entries.Ascending Bytes.order) :
    (entries.erase Bytes.order key).find? Bytes.order other =
      if other = key then none else entries.find? Bytes.order other := by
  by_cases same : other = key
  · subst same
    rw [if_pos rfl]
    exact ascending.find?_erase_same Std.ReflCmp.compare_self
  · rw [if_neg same]
    exact find?_erase_other (mt Std.LawfulEqCmp.eq_of_compare same)

/-- Ascending entries in which each key leads to the same are the same entries. -/
theorem Ascending.ext {order : Comparison} [Std.TransCmp order] {left right : Entries}
    (one : left.Ascending order) (two : right.Ascending order)
    (same : ∀ key, left.find? order key = right.find? order key) : left = right := by
  have members : ∀ entry, entry ∈ left ↔ entry ∈ right := by
    intro entry
    rw [one.mem_iff, two.mem_iff, same]
  have alike : left.Perm right :=
    (List.perm_ext_iff_of_nodup one.nodup_keys.of_map two.nodup_keys.of_map).mpr members
  refine List.Perm.eq_of_pairwise ?_ one two alike
  intro first second _ _ before after
  rw [Std.OrientedCmp.gt_iff_lt.mpr after] at before
  cases before

end Entries

namespace ByteMap

variable {τ : Type} [ByteMap τ]

/-- The laws of an ordered map, for maps of which `sound` holds. -/
structure Lawful (sound : τ → Prop) : Prop where
  blank : sound ByteMap.blank
  insert : ∀ {map key value}, sound map → sound (ByteMap.insert key value map)
  swap : ∀ {map key old new}, sound map → sound (compareAndSwap key old new map).2
  remove : ∀ {map key}, sound map → sound (ByteMap.remove key map).2
  get_blank : ∀ key, get key (ByteMap.blank : τ) = none
  contains_eq : ∀ {map}, sound map → ∀ key, contains key map = (get key map).isSome
  get_insert : ∀ {map}, sound map → ∀ key value other,
    get other (ByteMap.insert key value map) = if other = key then some value else get other map
  swapped : ∀ {map key}, sound map → ∀ new,
    (compareAndSwap key (get key map) new map).1 = true ∧ ∀ other,
      get other (compareAndSwap key (get key map) new map).2 =
        if other = key then new else get other map
  not_swapped : ∀ {map key old}, sound map → get key map ≠ old → ∀ new,
    compareAndSwap key old new map = (false, map)
  removed : ∀ {map}, sound map → ∀ key, (ByteMap.remove key map).1 = get key map
  get_remove : ∀ {map}, sound map → ∀ key other,
    get other (ByteMap.remove key map).2 = if other = key then none else get other map
  ascending : ∀ {map}, sound map → Entries.Ascending Bytes.order (range none none map)
  mem_range : ∀ {map}, sound map → ∀ entry,
    entry ∈ range none none map ↔ get entry.key map = some entry.value
  range_eq : ∀ {map}, sound map → ∀ lower upper, range lower upper map =
    (range none none map).filter fun entry => Entries.inside lower upper entry.key

namespace Lawful

variable {sound : τ → Prop} {map : τ} {key : Bytes}

theorem find?_range (lawful : Lawful sound) (holds : sound map) (key : Bytes) :
    Entries.find? Bytes.order key (range none none map) =
      (get key map).map fun value => ⟨key, value⟩ := by
  cases held : get key map with
  | none =>
    apply Option.eq_none_iff_forall_ne_some.mpr
    intro entry found
    have member := (lawful.mem_range holds entry).mp (List.mem_of_find?_eq_some found)
    rw [Entries.key_of_find? found, held] at member
    cases member
  | some value =>
    exact (lawful.ascending holds).mem_iff.mp ((lawful.mem_range holds ⟨key, value⟩).mpr held)

theorem range_blank (lawful : Lawful sound) : range none none (ByteMap.blank : τ) = [] := by
  apply List.eq_nil_iff_forall_not_mem.mpr
  intro entry member
  have held := (lawful.mem_range lawful.blank entry).mp member
  rw [lawful.get_blank] at held
  cases held

/-- A map in which the key leads to a new value has the entries with that value inserted. -/
theorem range_eq_insert (lawful : Lawful sound) (holds : sound map) {later : τ} {value : Bytes}
    (still : sound later)
    (changed : ∀ other, get other later = if other = key then some value else get other map) :
    range none none later = Entries.insert Bytes.order key value (range none none map) := by
  have ascending := lawful.ascending holds
  refine (lawful.ascending still).ext ascending.insert ?_
  intro other
  rw [lawful.find?_range still, changed, ascending.find?_insert_bytewise, lawful.find?_range holds]
  by_cases same : other = key
  · rw [if_pos same, if_pos same, same]
    rfl
  · rw [if_neg same, if_neg same]

theorem range_remove (lawful : Lawful sound) (holds : sound map) (key : Bytes) :
    range none none (ByteMap.remove key map).2 =
      Entries.erase Bytes.order key (range none none map) := by
  have ascending := lawful.ascending holds
  refine (lawful.ascending (lawful.remove holds)).ext ascending.erase ?_
  intro other
  rw [lawful.find?_range (lawful.remove holds), lawful.get_remove holds,
    ascending.find?_erase_bytewise, lawful.find?_range holds]
  by_cases same : other = key
  · rw [if_pos same, if_pos same]
    rfl
  · rw [if_neg same, if_neg same]

end Lawful

end ByteMap

namespace Entries

variable {key other value : Bytes} {entries : Entries}

theorem Ascending.get_insert (ascending : entries.Ascending Bytes.order) (key value other : Bytes) :
    (entries.insert Bytes.order key value).get other =
      if other = key then some value else entries.get other := by
  rw [get, get, ascending.find?_insert_bytewise]
  split <;> rfl

theorem Ascending.get_erase (ascending : entries.Ascending Bytes.order) (key other : Bytes) :
    (entries.erase Bytes.order key).get other =
      if other = key then none else entries.get other := by
  rw [get, get, ascending.find?_erase_bytewise]
  split <;> rfl

theorem Ascending.set (ascending : entries.Ascending Bytes.order) (key : Bytes)
    (value : Option Bytes) : (entries.set key value).Ascending Bytes.order := by
  cases value with
  | none => exact ascending.erase
  | some value => exact ascending.insert

theorem Ascending.get_set (ascending : entries.Ascending Bytes.order) (key : Bytes)
    (value : Option Bytes) (other : Bytes) :
    (entries.set key value).get other = if other = key then value else entries.get other := by
  cases value with
  | none => exact ascending.get_erase key other
  | some value => exact ascending.get_insert key value other

theorem Ascending.mem_iff_get (ascending : entries.Ascending Bytes.order) (entry : Entry) :
    entry ∈ entries ↔ entries.get entry.key = some entry.value := by
  rw [ascending.mem_iff, get, Option.map_eq_some_iff]
  constructor
  · intro found
    exact ⟨entry, found, rfl⟩
  · rintro ⟨held, found, same⟩
    have alike : held.key = entry.key := key_of_find? found
    rw [found, Option.some.injEq, Entry.mk.injEq]
    exact ⟨alike, same⟩

theorem compareAndSwap_eq (key : Bytes) (old new : Option Bytes) (entries : Entries) :
    ByteMap.compareAndSwap key old new entries =
      if entries.get key = old then (true, entries.set key new) else (false, entries) :=
  rfl

theorem filter_inside_all (entries : Entries) :
    (entries.filter fun entry => inside none none entry.key) = entries :=
  List.filter_true ..

end Entries

theorem entries_lawful : ByteMap.Lawful fun entries : Entries => entries.Ascending Bytes.order where
  blank := List.Pairwise.nil
  insert := fun ascending => ascending.insert
  swap := by
    intro entries key old new ascending
    rw [Entries.compareAndSwap_eq]
    split
    · exact ascending.set key new
    · exact ascending
  remove := fun ascending => ascending.erase
  get_blank _ := rfl
  contains_eq _ _ := rfl
  get_insert := fun ascending => ascending.get_insert
  swapped := by
    intro entries key ascending new
    have held : entries.get key = ByteMap.get key entries := rfl
    rw [Entries.compareAndSwap_eq, if_pos held]
    exact ⟨rfl, ascending.get_set key new⟩
  not_swapped := by
    intro entries key old ascending differs new
    exact if_neg differs
  removed _ _ := rfl
  get_remove := fun ascending => ascending.get_erase
  ascending := fun ascending => List.Pairwise.filter _ ascending
  mem_range := by
    intro entries ascending entry
    have all : ByteMap.range none none entries = entries := entries.filter_inside_all
    rw [all]
    exact ascending.mem_iff_get entry
  range_eq := by
    intro entries ascending lower upper
    have all : ByteMap.range none none entries = entries := entries.filter_inside_all
    rw [all]
    rfl

end KeyDepot
