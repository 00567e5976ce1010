import KeyDepot.Proofs.CallFootprint
import KeyDepot.Storage.Store

namespace KeyDepot

namespace Database

variable {σ : Type} [Engine σ]

/-- Whether a database can be flushed. -/
def Flushes (db : Database σ) : Prop := (db.perform .sync).1 = .ok ()

theorem poisoned_of_unflushed {db : Database σ} {reason : String}
    (failed : (Engine.perform .sync db.store).1 = .error (.engine reason)) :
    (db.perform .sync).2.poisoned = true := by
  cases poisoned : db.poisoned with
  | true => rw [perform_poisoned poisoned, poisoned]
  | false =>
    rw [perform_sound poisoned, failed]
    rfl

end Database

namespace Registry

variable {σ : Type} {registry after : Registry σ}

theorem get?_of_mem (distinct : registry.ids.Nodup) {db : Database σ}
    (member : db ∈ registry.databases) : registry.get? db.id = some db :=
  find?_of_distinct distinct member

variable [Engine σ]

/-- The databases with these numbers were asked to flush, each of them once, and no others were. -/
def Flushed (visited : List DatabaseId) (registry after : Registry σ) : Prop :=
  ∀ id db, registry.get? id = some db →
    after.get? id = some (if id ∈ visited then (db.perform .sync).2 else db)

theorem Flushed.nil (registry : Registry σ) : registry.Flushed [] registry := by
  intro id db found
  simpa using found

theorem perform?_of_get? {id : DatabaseId} {db : Database σ} (found : registry.get? id = some db)
    (operation : Operation) :
    registry.perform? id operation =
      some ((db.perform operation).1, registry.update (db.perform operation).2) := by
  rw [perform?, kept?, found]
  rfl

theorem update_flushed {id : DatabaseId} {db : Database σ} (found : registry.get? id = some db) :
    registry.Flushed [id] (registry.update (db.perform .sync).2) := by
  have numbered : (db.perform .sync).2.id = id := by
    rw [Database.perform_id, id_of_get? found]
  intro other held there
  by_cases same : other = id
  · subst same
    rw [found] at there
    obtain rfl := Option.some.inj there
    rw [get?_update found numbered]
    simp
  · rw [get?_update_other (numbered ▸ same), there]
    simp [same]

theorem Flushed.cons {id : DatabaseId} {rest : List DatabaseId} {last : Registry σ}
    (first : registry.Flushed [id] after) (later : after.Flushed rest last) (fresh : id ∉ rest) :
    registry.Flushed (id :: rest) last := by
  intro other db found
  rw [later other _ (first other db found)]
  by_cases same : other = id
  · subst same
    simp [fresh]
  · simp [same]

/-- The open database with this number can be flushed. -/
def Flushes (registry : Registry σ) (id : DatabaseId) : Prop :=
  ∃ db, registry.get? id = some db ∧ db.Flushes

/-- A walk over open databases flushes them all, or ends at the first that cannot be flushed. -/
theorem syncIn_cases {order : List DatabaseId} (once : order.Nodup)
    (known : ∀ id ∈ order, ∃ db, registry.get? id = some db) :
    ((∀ id ∈ order, registry.Flushes id) ∧ (registry.syncIn order).1 = .ok () ∧
        registry.Flushed order (registry.syncIn order).2) ∨
      ∃ front id back db error, order = front ++ id :: back ∧
        (∀ other ∈ front, registry.Flushes other) ∧ registry.get? id = some db ∧
        (db.perform .sync).1 = .error error ∧ (registry.syncIn order).1 = .error error ∧
        registry.Flushed (front ++ [id]) (registry.syncIn order).2 := by
  induction order generalizing registry with
  | nil => exact .inl ⟨by simp, rfl, .nil registry⟩
  | cons id rest ih =>
    obtain ⟨fresh, later⟩ := List.nodup_cons.mp once
    obtain ⟨db, found⟩ := known id List.mem_cons_self
    have step := update_flushed found
    rw [syncIn, perform?_of_get? found]
    cases outcome : (db.perform .sync).1 with
    | error error =>
      exact .inr ⟨[], id, rest, db, error, rfl, by simp, found, outcome, rfl, step⟩
    | ok answer =>
      generalize registry.update (db.perform .sync).2 = next at step ⊢
      have here : registry.Flushes id := ⟨db, found, outcome⟩
      have same : ∀ other ∈ rest, next.get? other = registry.get? other := by
        intro other member
        have apart : other ≠ id := fun same => fresh (same ▸ member)
        obtain ⟨old, there⟩ := known other (List.mem_cons_of_mem id member)
        rw [step other old there, there]
        simp [apart]
      have reached : ∀ other ∈ rest, ∃ db, next.get? other = some db := by
        intro other member
        rw [same other member]
        exact known other (List.mem_cons_of_mem id member)
      have before : ∀ other ∈ rest, next.Flushes other → registry.Flushes other := by
        intro other member
        rw [Flushes, same other member]
        exact fun flushes => flushes
      rcases ih later reached with ⟨all, fine, flushed⟩ |
        ⟨front, last, back, broken, error, rfl, all, there, fails, failed, flushed⟩
      · refine .inl ⟨?_, fine, step.cons flushed fresh⟩
        rw [List.forall_mem_cons]
        exact ⟨here, fun other member => before other member (all other member)⟩
      · rw [same last (by simp)] at there
        refine .inr ⟨id :: front, last, back, broken, error, rfl, ?_, there, fails, failed, ?_⟩
        · rw [List.forall_mem_cons]
          exact ⟨here, fun other member => before other (by simp [member]) (all other member)⟩
        · apply step.cons flushed
          intro member
          rw [List.append_cons] at fresh
          exact fresh (List.mem_append_left back member)

/-- What flushing is for: every open database was asked once, and is poisoned if its engine failed.
-/
def Reached (registry after : Registry σ) : Prop :=
  ∀ db ∈ registry.databases, after.get? db.id = some (db.perform .sync).2 ∧
    ∀ reason, (Engine.perform .sync db.store).1 = .error (.engine reason) →
      (db.perform .sync).2.poisoned = true

/-- Flushing succeeds exactly when every open database can be flushed. It reaches all of them when
no database but the last of the walk fails; otherwise it ends at the first that fails, and leaves
those behind that one as they were. -/
theorem flushing_ends_at_first_failure (distinct : registry.ids.Nodup) {order : List DatabaseId}
    (walk : order.Perm registry.ids) :
    ((registry.syncIn order).1 = .ok () ↔ ∀ db ∈ registry.databases, db.Flushes) ∧
      ((∀ db ∈ registry.databases, db.id ∈ order.dropLast → db.Flushes) →
        registry.Reached (registry.syncIn order).2) ∧
      ∃ visited left, order = visited ++ left ∧
        (∀ db ∈ registry.databases, (registry.syncIn order).2.get? db.id =
          some (if db.id ∈ visited then (db.perform .sync).2 else db)) ∧
        (∀ db ∈ registry.databases, db.id ∈ visited.dropLast → db.Flushes) ∧
        (left = [] ∨ ∃ db ∈ registry.databases, visited.getLast? = some db.id ∧ ¬ db.Flushes) := by
  have held : ∀ db ∈ registry.databases, registry.get? db.id = some db := fun db =>
    get?_of_mem distinct
  have listed : ∀ db ∈ registry.databases, db.id ∈ order := fun db member =>
    walk.mem_iff.mpr (List.mem_map_of_mem member)
  have known : ∀ id ∈ order, ∃ db, registry.get? id = some db := by
    intro id member
    obtain ⟨db, there, rfl⟩ := List.mem_map.mp (walk.mem_iff.mp member)
    exact ⟨db, held db there⟩
  have flushes : ∀ db ∈ registry.databases, registry.Flushes db.id → db.Flushes := by
    rintro db member ⟨other, found, fine⟩
    rw [held db member] at found
    exact Option.some.inj found ▸ fine
  have poisons : ∀ db ∈ registry.databases, ∀ reason,
      (Engine.perform .sync db.store).1 = .error (.engine reason) →
        (db.perform .sync).2.poisoned = true :=
    fun db _ reason => Database.poisoned_of_unflushed
  rcases syncIn_cases (walk.nodup_iff.mpr distinct) known with ⟨all, fine, flushed⟩ |
    ⟨front, id, back, db, error, rfl, before, found, failed, ended, flushed⟩
  · have whole : ∀ db ∈ registry.databases, db.Flushes := fun db member =>
      flushes db member (all db.id (listed db member))
    refine ⟨⟨fun _ => whole, fun _ => fine⟩, ?_, order, [], by simp, ?_, ?_, .inl rfl⟩
    · intro _ db member
      have there := flushed db.id db (held db member)
      rw [if_pos (listed db member)] at there
      exact ⟨there, poisons db member⟩
    · exact fun db member => flushed db.id db (held db member)
    · exact fun db member _ => whole db member
  · obtain rfl : db.id = id := id_of_get? found
    have member : db ∈ registry.databases := List.mem_of_find?_eq_some found
    have broken : ¬ db.Flushes := by
      rw [Database.Flushes, failed]
      exact nofun
    have visited := fun (other : Database σ) (there : other ∈ registry.databases) =>
      flushed other.id other (held other there)
    refine ⟨⟨?_, fun whole => absurd (whole db member) broken⟩, ?_, front ++ [db.id], back,
      by simp, visited, ?_, .inr ⟨db, member, by simp, broken⟩⟩
    · intro fine
      rw [ended] at fine
      cases fine
    · intro others other there
      cases back with
      | nil =>
        have reached := visited other there
        rw [if_pos (listed other there)] at reached
        exact ⟨reached, poisons other there⟩
      | cons next rest => exact absurd (others db member (by simp)) broken
    · intro other there earlier
      rw [List.dropLast_concat] at earlier
      exact flushes other there (before other.id earlier)

/-- A registry of databases whose engines are broken or not. -/
def ofSwitches (switches : List Bool) : Registry BrittleStore :=
  let databases := switches.mapIdx fun index broken =>
    { id := ⟨UInt64.ofNat (index + 1)⟩, config := { name := toString index },
      store := { broken, map := { options := {} } } }
  { next := switches.length + 1, databases
    names := databases.map fun db => (db.config.name, db.id) }

/-- The second of three fails, and is the last to be asked. -/
theorem flushing_ends_at_first_failure_last :
    let registry := ofSwitches [false, true, false]
    registry.ids.Nodup ∧ [⟨3⟩, ⟨1⟩, ⟨2⟩].Perm registry.ids ∧
      registry.Reached (registry.syncIn [⟨3⟩, ⟨1⟩, ⟨2⟩]).2 ∧
      (registry.syncIn [⟨3⟩, ⟨1⟩, ⟨2⟩]).1 ≠ .ok () := by
  have distinct : (ofSwitches [false, true, false]).ids.Nodup := by decide
  have walk : [⟨3⟩, ⟨1⟩, ⟨2⟩].Perm (ofSwitches [false, true, false]).ids := by decide
  obtain ⟨-, whole, -⟩ := flushing_ends_at_first_failure distinct walk
  refine ⟨distinct, walk, whole ?_, nofun⟩
  have first : ⟨2⟩ ∉ [(⟨3⟩ : DatabaseId), ⟨1⟩, ⟨2⟩].dropLast := by decide
  exact List.forall_mem_cons.mpr ⟨fun _ => rfl, List.forall_mem_cons.mpr
    ⟨fun early => absurd early first, List.forall_mem_singleton.mpr fun _ => rfl⟩⟩

/-- Of two databases whose engines fail one is not reached, whichever the walk begins with. -/
theorem second_failure_not_reached :
    let registry := ofSwitches [true, true]
    [⟨1⟩, ⟨2⟩].Perm registry.ids ∧ ¬ registry.Reached (registry.syncIn [⟨1⟩, ⟨2⟩]).2 ∧
      [⟨2⟩, ⟨1⟩].Perm registry.ids ∧ ¬ registry.Reached (registry.syncIn [⟨2⟩, ⟨1⟩]).2 := by
  refine ⟨by decide, ?_, by decide, ?_⟩
  · intro reached
    obtain ⟨asked, -⟩ := reached _ (List.mem_cons_of_mem _ List.mem_cons_self)
    have poisoned : some false = some true := congrArg (Option.map Database.poisoned) asked
    cases poisoned
  · intro reached
    obtain ⟨asked, -⟩ := reached _ List.mem_cons_self
    have poisoned : some false = some true := congrArg (Option.map Database.poisoned) asked
    cases poisoned

end Registry

end KeyDepot
