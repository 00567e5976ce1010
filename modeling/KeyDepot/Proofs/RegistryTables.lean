import Mathlib.Algebra.Order.Ring.Nat
import Mathlib.Data.List.Nodup
import KeyDepot.Proofs.ServerLookup

namespace KeyDepot.Registry

variable {σ : Type} {registry : Registry σ}

/-- The number the next database gets. -/
def number (registry : Registry σ) : DatabaseId := ⟨UInt64.ofNat registry.next⟩

theorem toNat_number (room : registry.next < 2 ^ 64) :
    registry.number.number.toNat = registry.next := by
  rw [number, UInt64.toNat_ofNat', Nat.mod_eq_of_lt room]

/-- The registry with one more database. -/
def enter (config : DatabaseConfig) (store : σ) (registry : Registry σ) : Registry σ :=
  { registry with
    next := registry.next + 1
    databases := registry.databases ++ [{ id := registry.number, config, store }]
    names := (config.name, registry.number) :: registry.names }

/-- An insertion fails and changes nothing, or enters the engine under a name that was free. -/
theorem insert_cases [Engine σ] (config : DatabaseConfig) (store : σ) (registry : Registry σ) :
    (∃ error, registry.insert config store = (.error error, registry)) ∨
      registry.find? config.name = none ∧
        ∃ opened, registry.insert config store =
          (.ok registry.number, registry.enter config opened) := by
  unfold insert
  split
  · exact .inl ⟨_, rfl⟩
  · rename_i free
    split
    · exact .inl ⟨_, rfl⟩
    · exact .inr ⟨free, _, rfl⟩

/-- Numbers ascend up to the next one, names are distinct, and each name has the number of the open
database of that name. -/
structure Tabled (registry : Registry σ) : Prop where
  ascending : registry.databases.Pairwise fun left right => left.id.number < right.id.number
  below : ∀ db ∈ registry.databases, db.id.number.toNat < registry.next
  distinct : (registry.names.map Prod.fst).Nodup
  names : ∀ name id, (name, id) ∈ registry.names ↔
    ∃ db ∈ registry.databases, db.config.name = name ∧ db.id = id

namespace Tabled

theorem empty : ({} : Registry σ).Tabled where
  ascending := List.Pairwise.nil
  below _ member := nomatch member
  distinct := List.nodup_nil
  names _ _ := by simp

theorem get?_iff (tabled : registry.Tabled) {id : DatabaseId} {db : Database σ} :
    registry.get? id = some db ↔ db ∈ registry.databases ∧ db.id = id := by
  constructor
  · intro found
    exact ⟨List.mem_of_find?_eq_some found, id_of_get? found⟩
  · rintro ⟨member, rfl⟩
    obtain ⟨front, back, whole⟩ := List.append_of_mem member
    have apart := (List.pairwise_append.mp (whole ▸ tabled.ascending)).2.2
    apply List.find?_eq_some_iff_append.mpr
    refine ⟨beq_self_eq_true _, front, back, whole, ?_⟩
    intro other earlier
    have less := apart other earlier db (List.mem_cons_self ..)
    have differs : other.id ≠ db.id := by
      intro same
      rw [same] at less
      exact UInt64.lt_irrefl _ less
    simp [differs]

theorem id_eq_of_name (tabled : registry.Tabled) {left right : Database σ}
    (one : left ∈ registry.databases) (other : right ∈ registry.databases)
    (same : left.config.name = right.config.name) : left.id = right.id := by
  have first := (tabled.names _ _).mpr ⟨left, one, rfl, rfl⟩
  have second := (tabled.names _ _).mpr ⟨right, other, rfl, rfl⟩
  exact congrArg Prod.snd (List.inj_on_of_nodup_map tabled.distinct first second same)

theorem find?_iff (tabled : registry.Tabled) {name : String} {id : DatabaseId} :
    registry.find? name = some id ↔
      ∃ db, registry.get? id = some db ∧ db.config.name = name := by
  have looked : registry.find? name = some id ↔ (name, id) ∈ registry.names := by
    rw [find?, List.lookup_eq_some_iff]
    constructor
    · rintro ⟨front, back, whole, -⟩
      rw [whole]
      exact List.mem_append_right _ (List.mem_cons_self ..)
    · intro member
      obtain ⟨front, back, whole⟩ := List.append_of_mem member
      refine ⟨front, back, whole, ?_⟩
      intro entry earlier
      have apart := (List.pairwise_append.mp (List.pairwise_map.mp (whole ▸ tabled.distinct))).2.2
      exact bne_iff_ne.mpr (apart entry earlier _ (List.mem_cons_self ..)).symm
  rw [looked, tabled.names]
  constructor
  · rintro ⟨db, member, named, same⟩
    exact ⟨db, tabled.get?_iff.mpr ⟨member, same⟩, named⟩
  · rintro ⟨db, found, named⟩
    obtain ⟨member, same⟩ := tabled.get?_iff.mp found
    exact ⟨db, member, named, same⟩

theorem names_nodup (tabled : registry.Tabled) :
    (registry.databases.map fun db => db.config.name).Nodup := by
  apply List.pairwise_map.mpr
  apply tabled.ascending.imp_of_mem
  intro left right one other less same
  rw [tabled.id_eq_of_name one other same] at less
  exact UInt64.lt_irrefl _ less

theorem mem_ids_iff (tabled : registry.Tabled) {id : DatabaseId} :
    id ∈ registry.ids ↔ (registry.get? id).isSome := by
  rw [ids, List.mem_map, Option.isSome_iff_exists]
  exact exists_congr fun db => tabled.get?_iff.symm

/-- While numbers remain, a database can be entered under a name that is free. -/
theorem enter (tabled : registry.Tabled) {config : DatabaseConfig}
    (free : registry.find? config.name = none) (room : registry.next < 2 ^ 64) (store : σ) :
    (registry.enter config store).Tabled := by
  constructor
  · apply List.pairwise_append.mpr
    refine ⟨tabled.ascending, List.pairwise_singleton .., ?_⟩
    intro db member new last
    obtain rfl := List.mem_singleton.mp last
    rw [UInt64.lt_iff_toNat_lt, toNat_number room]
    exact tabled.below db member
  · intro db member
    rcases List.mem_append.mp member with old | new
    · exact Nat.lt_succ_of_lt (tabled.below db old)
    · obtain rfl := List.mem_singleton.mp new
      rw [toNat_number room]
      exact Nat.lt_succ_self _
  · apply List.nodup_cons.mpr
    refine ⟨?_, tabled.distinct⟩
    intro taken
    obtain ⟨entry, member, same⟩ := List.mem_map.mp taken
    obtain ⟨db, held, named, numbered⟩ := (tabled.names entry.1 entry.2).mp member
    have opened := tabled.get?_iff.mpr ⟨held, numbered⟩
    have found := tabled.find?_iff.mpr ⟨db, opened, named.trans same⟩
    rw [free] at found
    cases found
  · intro name id
    simp only [Registry.enter, List.mem_cons, List.mem_append, Prod.mk.injEq, tabled.names,
      List.not_mem_nil, or_false]
    constructor
    · rintro (⟨rfl, rfl⟩ | ⟨db, member, named, same⟩)
      · exact ⟨_, .inr rfl, rfl, rfl⟩
      · exact ⟨db, .inl member, named, same⟩
    · rintro ⟨db, member | rfl, named, same⟩
      · exact .inr ⟨db, member, named, same⟩
      · exact .inl ⟨named.symm, same.symm⟩

theorem remove (tabled : registry.Tabled) (id : DatabaseId) :
    (registry.remove id).2.Tabled := by
  unfold Registry.remove
  split
  · exact tabled
  · rename_i db found
    obtain ⟨held, rfl⟩ := tabled.get?_iff.mp found
    constructor
    · exact tabled.ascending.filter _
    · intro other member
      exact tabled.below other (List.mem_filter.mp member).1
    · exact tabled.distinct.sublist (List.filter_sublist.map Prod.fst)
    · intro name id
      simp only [List.mem_filter, tabled.names, bne_iff_ne]
      constructor
      · rintro ⟨⟨other, member, rfl, rfl⟩, apart⟩
        refine ⟨other, ⟨member, ?_⟩, rfl, rfl⟩
        intro same
        have found_too := tabled.get?_iff.mpr ⟨member, same⟩
        rw [found] at found_too
        obtain rfl := Option.some.inj found_too
        exact apart rfl
      · rintro ⟨other, ⟨member, apart⟩, rfl, rfl⟩
        exact ⟨⟨other, member, rfl, rfl⟩, fun same => apart (tabled.id_eq_of_name member held same)⟩

end Tabled

theorem get?_remove (id : DatabaseId) (registry : Registry σ) :
    (registry.remove id).2.get? id = none := by
  unfold remove
  split
  · rename_i missing
    exact missing
  · apply List.find?_eq_none.mpr
    intro db member
    simpa using (List.mem_filter.mp member).2

end KeyDepot.Registry
