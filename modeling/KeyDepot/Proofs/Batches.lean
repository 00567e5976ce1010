import KeyDepot.Proofs.Poisoning
import KeyDepot.Storage.Store

namespace KeyDepot

variable {σ τ : Type}

/-- A put of one item. -/
def Engine.put [Engine σ] (key value : Bytes) (state : σ) : Outcome σ Bool :=
  Engine.perform (.put key value) state

/-- The engine takes a batch item by item. -/
def Engine.PutsInTurn (σ : Type) [Engine σ] : Prop :=
  ∀ keys values (state : σ),
    Engine.perform (.putMulti keys values) state = putBatch Engine.put keys values state

section Puts

variable (put : Bytes → Bytes → σ → Outcome σ Bool)

/-- Puts every item, whatever became of those before it. -/
def putEvery (items : List (Bytes × Bytes)) (state : σ) : List (Except Error Bool) × σ :=
  let (told, last) := feed (fun item : Bytes × Bytes => put item.1 item.2) items state
  (told.map Sigma.snd, last)

/-- Of items that are put one after the other, the one at this place is the first to fail: those
before it were put, and this is what its own put comes to. -/
structure FailsFirst (items : List (Bytes × Bytes)) (state : σ) (place : Nat) (error : Error)
    (after : σ) : Prop where
  before : ∃ stored : List Bool, (putEvery put (items.take place) state).1 = stored.map .ok
  fails : ∃ item, items[place]? = some item ∧
    put item.1 item.2 (putEvery put (items.take place) state).2 = (.error error, after)

variable {put} {item : Bytes × Bytes} {items : List (Bytes × Bytes)} {state next after : σ}
  {error : Error} {place : Nat}

theorem putEvery_cons {outcome : Except Error Bool}
    (first : put item.1 item.2 state = (outcome, next)) :
    putEvery put (item :: items) state =
      (outcome :: (putEvery put items next).1, (putEvery put items next).2) := by
  simp only [putEvery, feed, first, List.map_cons]

theorem failsFirst_nil : ¬ FailsFirst put [] state place error after := by
  rintro ⟨-, item, there, -⟩
  cases there

theorem failsFirst_cons_failed {fault : Error}
    (first : put item.1 item.2 state = (.error fault, next)) :
    (∃ place, FailsFirst put (item :: items) state place error after) ↔
      fault = error ∧ next = after := by
  constructor
  · rintro ⟨place, ⟨stored, before⟩, failing, there, fails⟩
    cases place with
    | zero =>
      obtain rfl := Option.some.inj there
      cases first.symm.trans fails
      exact ⟨rfl, rfl⟩
    | succ place =>
      rw [List.take_succ_cons, putEvery_cons first] at before
      cases stored <;> cases before
  · rintro ⟨rfl, rfl⟩
    exact ⟨0, ⟨[], rfl⟩, item, rfl, first⟩

/-- After a put that succeeds, the first to fail is one of the others. -/
theorem failsFirst_cons_stored {one : Bool}
    (first : put item.1 item.2 state = (.ok one, next)) :
    (∃ place, FailsFirst put (item :: items) state place error after) ↔
      ∃ place, FailsFirst put items next place error after := by
  constructor
  · rintro ⟨place, ⟨stored, before⟩, failing, there, fails⟩
    cases place with
    | zero =>
      obtain rfl := Option.some.inj there
      cases first.symm.trans fails
    | succ place =>
      rw [List.take_succ_cons, putEvery_cons first] at before fails
      cases stored with
      | nil => cases before
      | cons one others =>
        exact ⟨place, ⟨others, (List.cons.inj before).2⟩, failing, there, fails⟩
  · rintro ⟨place, ⟨others, before⟩, failing, there, fails⟩
    refine ⟨place + 1, ⟨one :: others, ?_⟩, failing, there, ?_⟩
    · rw [List.take_succ_cons, putEvery_cons first, before, List.map_cons]
    · rwa [List.take_succ_cons, putEvery_cons first]

/-- The state that the first failure leaves is the one the puts up to it lead to. -/
theorem FailsFirst.after_eq (failure : FailsFirst put items state place error after) :
    after = (putEvery put (items.take (place + 1)) state).2 := by
  obtain ⟨-, item, there, fails⟩ := failure
  simp only [putEvery] at fails
  rw [List.take_add_one, there, Option.toList_some, putEvery, feed_append]
  simp only [feed, fails]

theorem FailsFirst.cut (failure : FailsFirst put items state place error after) :
    FailsFirst put (items.take (place + 1)) state place error after := by
  obtain ⟨before, item, there, fails⟩ := failure
  have front : (items.take (place + 1)).take place = items.take place := by
    rw [List.take_take, Nat.min_eq_left (Nat.le_succ place)]
  have kept : (items.take (place + 1))[place]? = some item := by
    rw [List.getElem?_take_of_lt (Nat.lt_succ_self place), there]
  exact ⟨by rwa [front], item, kept, by rwa [front]⟩

theorem putAll_cons_failed (first : put item.1 item.2 state = (.error error, next)) :
    putAll put (item :: items) state = (.error error, next) := by
  simp only [putAll, first]

theorem putAll_cons_stored {stored : Bool} (first : put item.1 item.2 state = (.ok stored, next)) :
    putAll put (item :: items) state =
      ((putAll put items next).1.map (stored :: ·), (putAll put items next).2) := by
  simp only [putAll, first]
  split <;> rename_i others <;> rw [others] <;> rfl

/-- A batch is answered with what was stored exactly when every single put succeeds, and then it
stores what they store. -/
theorem putAll_eq_ok_iff {stored : List Bool} :
    putAll put items state = (.ok stored, after) ↔
      putEvery put items state = (stored.map .ok, after) := by
  induction items generalizing state stored with
  | nil => cases stored <;> simp [putAll, putEvery, feed]
  | cons item rest ih =>
    cases first : put item.1 item.2 state with
    | mk outcome next =>
      rw [putEvery_cons first]
      cases outcome with
      | error fault =>
        rw [putAll_cons_failed first]
        cases stored <;> simp
      | ok one =>
        have later (others : List Bool) := @ih next others
        rw [putAll_cons_stored first]
        cases stored with
        | nil => cases (putAll put rest next).1 <;> simp [Except.map]
        | cons head tail =>
          simp only [Prod.ext_iff] at later
          simp only [Prod.ext_iff, List.map_cons, List.cons.injEq, Except.ok.injEq, and_assoc,
            ← later]
          cases (putAll put rest next).1 <;> simp [Except.map, and_assoc]

/-- A batch comes to an error exactly when some put is the first to fail. -/
theorem putAll_eq_error_iff :
    putAll put items state = (.error error, after) ↔
      ∃ place, FailsFirst put items state place error after := by
  induction items generalizing state with
  | nil =>
    constructor
    · rintro ⟨⟩
    · rintro ⟨place, failure⟩
      exact absurd failure failsFirst_nil
  | cons item rest ih =>
    cases first : put item.1 item.2 state with
    | mk outcome next =>
      cases outcome with
      | error fault =>
        rw [putAll_cons_failed first, failsFirst_cons_failed first, Prod.mk.injEq,
          Except.error.injEq]
      | ok one =>
        rw [putAll_cons_stored first, failsFirst_cons_stored first, ← ih]
        cases putAll put rest next with
        | mk outcome last => cases outcome <;> simp [Except.map]

/-- A machine with a state around that of another takes a batch as that one does. -/
theorem putBatch_wrapped {wrap : σ → τ} {outer : Bytes → Bytes → τ → Outcome τ Bool}
    (each : ∀ key value state,
      outer key value (wrap state) = ((put key value state).1, wrap (put key value state).2))
    (keys values : List Bytes) (state : σ) :
    putBatch outer keys values (wrap state) =
      ((putBatch put keys values state).1, wrap (putBatch put keys values state).2) := by
  have all (items : List (Bytes × Bytes)) (state : σ) :
      putAll outer items (wrap state) =
        ((putAll put items state).1, wrap (putAll put items state).2) := by
    induction items generalizing state with
    | nil => rfl
    | cons item rest ih =>
      cases first : put item.1 item.2 state with
      | mk outcome next =>
        have wrapped := each item.1 item.2 state
        rw [first] at wrapped
        cases outcome with
        | error fault => rw [putAll_cons_failed wrapped, putAll_cons_failed first]
        | ok one => rw [putAll_cons_stored wrapped, putAll_cons_stored first, ih]
  simp only [putBatch]
  split
  · exact all _ state
  · rfl

end Puts

namespace Engine.PutsInTurn

theorem map : Engine.PutsInTurn MapStore := by
  intro keys values store
  have each (key value : Bytes) {store other : MapStore} (same : store = other) :
      (.ok (store.put key value).1 : Except Error Bool) = (Engine.put key value other).1 ∧
        (store.put key value).2 = (Engine.put key value other).2 := by
    subst same
    exact ⟨rfl, rfl⟩
  obtain ⟨answer, state⟩ := MapStore.putMulti_agree each keys values (rfl : store = store)
  exact Prod.ext answer state

theorem null : Engine.PutsInTurn NullStore :=
  fun _ _ _ => rfl

theorem durable (τ : Type) [ByteMap τ] : Engine.PutsInTurn (DurableStore τ) :=
  fun _ _ _ => rfl

theorem brittle : Engine.PutsInTurn BrittleStore :=
  fun _ _ _ => rfl

theorem wrapped [Engine σ] [Engine τ] (inTurn : Engine.PutsInTurn σ) (wrap : σ → τ)
    (each : ∀ operation state, Engine.perform operation (wrap state) =
      ((Engine.perform operation state).1, wrap (Engine.perform operation state).2))
    (keys values : List Bytes) (state : σ) :
    Engine.perform (.putMulti keys values) (wrap state) =
      putBatch Engine.put keys values (wrap state) := by
  have puts (key value : Bytes) (state : σ) : Engine.put key value (wrap state) =
      ((Engine.put key value state).1, wrap (Engine.put key value state).2) :=
    each (.put key value) state
  rw [each, inTurn, putBatch_wrapped puts]

theorem store : Engine.PutsInTurn Store := by
  intro keys values store
  cases store with
  | map store => exact map.wrapped Store.map (fun _ _ => rfl) keys values store
  | null store => exact null.wrapped Store.null (fun _ _ => rfl) keys values store
  | durable store =>
    exact (durable Entries).wrapped Store.durable (fun _ _ => rfl) keys values store
  | brittle store => exact brittle.wrapped Store.brittle (fun _ _ => rfl) keys values store

section

variable [Engine σ] {keys values : List Bytes} {state after : σ}

/-- A batch with more keys than values, or fewer, is refused as a whole. -/
theorem refused (inTurn : Engine.PutsInTurn σ) (differ : keys.length ≠ values.length) (state : σ) :
    Engine.perform (.putMulti keys values) state =
      (.error (.invalidArgument (.batchLengths keys.length values.length)), state) := by
  rw [inTurn, putBatch, if_neg differ]

theorem taken (inTurn : Engine.PutsInTurn σ) (even : keys.length = values.length) (state : σ) :
    Engine.perform (.putMulti keys values) state =
      putAll Engine.put (keys.zip values) state := by
  rw [inTurn, putBatch, if_pos even]

theorem failed (inTurn : Engine.PutsInTurn σ) (even : keys.length = values.length) {place : Nat}
    {error : Error} (failure : FailsFirst Engine.put (keys.zip values) state place error after) :
    Engine.perform (.putMulti keys values) state = (.error error, after) := by
  rw [inTurn.taken even]
  exact putAll_eq_error_iff.mpr ⟨place, failure⟩

end

end Engine.PutsInTurn

theorem DurableStore.put_failed [ByteMap τ] {store : DurableStore τ} {key value : Bytes}
    {error : Error} (failed : (store.put key value).1 = .error error) :
    (store.put key value).2 = store := by
  simp only [DurableStore.put, withMap] at failed ⊢
  split
  · rfl
  · rename_i database current
    rw [current] at failed
    cases failed

theorem BrittleStore.put_failed {store : BrittleStore} {key value : Bytes} {error : Error}
    (failed : (store.put key value).1 = .error error) : (store.put key value).2 = store := by
  simp only [BrittleStore.put, guarded] at failed ⊢
  split
  · rfl
  · rename_i sound
    rw [sound] at failed
    cases failed

theorem Store.put_failed {store after : Store} {key value : Bytes} {error : Error}
    (failed : Engine.put key value store = (.error error, after)) : after = store := by
  obtain ⟨told, rfl⟩ := Prod.ext_iff.mp failed
  cases store with
  | map store => cases told
  | null store => cases told
  | durable store => exact congrArg Store.durable (DurableStore.put_failed told)
  | brittle store => exact congrArg Store.brittle (BrittleStore.put_failed told)

theorem Database.poisons_error_iff {α : Type} {error : Error} :
    poisons (.error error : Except Error α) = true ↔ ∃ reason, error = .engine reason := by
  cases error <;> simp [poisons]

/-- An operation that fails on a sound database poisons it exactly when its engine failed. -/
theorem Database.perform_failed [Engine σ] {db : Database σ} (sound : db.poisoned = false)
    {operation : Operation} {error : Error} {after : σ}
    (failed : Engine.perform operation db.store = (.error error, after)) :
    ∃ poisoned, db.perform operation = (.error error, { db with store := after, poisoned }) ∧
      (poisoned = true ↔ ∃ reason, error = .engine reason) := by
  refine ⟨poisons (.error error : Except Error operation.Answer), ?_, poisons_error_iff⟩
  rw [perform_sound sound, failed]

/-- A batch of puts is single puts one after the other, up to the first that fails. It is refused
when there are not as many values as keys. Otherwise it stores and answers what the single puts do
if all of them succeed. If one is the first to fail, it comes to that error and to the state that
put has left, whatever stands behind it, and a database is poisoned by it exactly when its engine
failed. Every engine at hand takes a batch so, and is left by a put that fails as it was; the store
in memory does it by code of its own, and never fails. -/
theorem batches_put_in_turn :
    (Engine.PutsInTurn MapStore ∧ Engine.PutsInTurn NullStore ∧ Engine.PutsInTurn BrittleStore ∧
      (∀ (τ : Type) [ByteMap τ], Engine.PutsInTurn (DurableStore τ)) ∧
      Engine.PutsInTurn Store ∧
      ∀ (key value : Bytes) (store after : Store) error,
        Engine.put key value store = (.error error, after) → after = store) ∧
    (∀ (keys values : List Bytes) (store : MapStore), keys.length = values.length →
      ∃ stored after, Engine.perform (.putMulti keys values) store = (.ok stored, after) ∧
        putEvery Engine.put (keys.zip values) store = (stored.map .ok, after)) ∧
    ∀ (σ : Type) [Engine σ], Engine.PutsInTurn σ → ∀ (keys values : List Bytes) (state : σ),
      (keys.length ≠ values.length → Engine.perform (.putMulti keys values) state =
        (.error (.invalidArgument (.batchLengths keys.length values.length)), state)) ∧
      (keys.length = values.length →
        (∀ stored after, Engine.perform (.putMulti keys values) state = (.ok stored, after) ↔
          putEvery Engine.put (keys.zip values) state = (stored.map .ok, after)) ∧
        (∀ error after, Engine.perform (.putMulti keys values) state = (.error error, after) ↔
          ∃ place, FailsFirst Engine.put (keys.zip values) state place error after) ∧
        ∀ place error after, FailsFirst Engine.put (keys.zip values) state place error after →
          after = (putEvery Engine.put ((keys.zip values).take (place + 1)) state).2 ∧
          Engine.perform (.putMulti (keys.take (place + 1)) (values.take (place + 1))) state =
            (.error error, after) ∧
          ∀ db : Database σ, db.store = state → db.poisoned = false → ∃ poisoned,
            db.perform (.putMulti keys values) =
                (.error error, { db with store := after, poisoned }) ∧
              (poisoned = true ↔ ∃ reason, error = .engine reason)) := by
  refine ⟨⟨.map, .null, .brittle, .durable, .store, fun _ _ _ _ _ => Store.put_failed⟩, ?_, ?_⟩
  · intro keys values store even
    have fine : Engine.perform (.putMulti keys values) store =
        (.ok (store.putEach (keys.zip values)).1, (store.putEach (keys.zip values)).2) := by
      change store.perform _ = _
      rw [MapStore.perform, if_pos even]
    refine ⟨_, _, fine, putAll_eq_ok_iff.mp ?_⟩
    rw [← Engine.PutsInTurn.map.taken even, fine]
  · intro σ _ inTurn keys values state
    refine ⟨fun differ => inTurn.refused differ state, fun even => ⟨?_, ?_, ?_⟩⟩
    · intro stored after
      rw [inTurn.taken even, putAll_eq_ok_iff]
    · intro error after
      rw [inTurn.taken even, putAll_eq_error_iff]
    · intro place error after failure
      have failed := inTurn.failed even failure
      have evenFront : (keys.take (place + 1)).length = (values.take (place + 1)).length := by
        rw [List.length_take, List.length_take, even]
      have cut := failure.cut
      rw [List.zip_eq_zipWith, List.take_zipWith, ← List.zip_eq_zipWith] at cut
      refine ⟨failure.after_eq, inTurn.failed evenFront cut, ?_⟩
      rintro db rfl sound
      exact Database.perform_failed sound failed

/-- The second of three puts breaks the engine: the first item is stored, the third is not, and the
database is poisoned. -/
theorem batches_put_in_turn_broken :
    let keys := [[97], [33], [98]]
    let values := [[1], [2], [3]]
    let faults := [([33], Error.engine "bad block")]
    let sound : BrittleStore := { faults, map := { options := {} } }
    let after : BrittleStore := { faults, map := { options := {}, entries := [⟨[97], [1]⟩] } }
    FailsFirst Engine.put (keys.zip values) sound 1 (.engine "bad block") after ∧
      ∃ poisoned, (⟨⟨1⟩, { name := "a" }, sound, false⟩ : Database BrittleStore).perform
          (.putMulti keys values) =
          (.error (.engine "bad block"), ⟨⟨1⟩, { name := "a" }, after, poisoned⟩) ∧
        (poisoned = true ↔ ∃ reason, Error.engine "bad block" = .engine reason) := by
  intro keys values faults sound after
  have failure : FailsFirst Engine.put (keys.zip values) sound 1 (.engine "bad block") after :=
    ⟨⟨[true], rfl⟩, _, rfl, rfl⟩
  obtain ⟨-, -, inTurn⟩ := batches_put_in_turn
  obtain ⟨-, even⟩ := inTurn BrittleStore .brittle keys values sound
  obtain ⟨-, -, first⟩ := even rfl
  obtain ⟨-, -, through⟩ := first 1 _ _ failure
  exact ⟨failure, through ⟨⟨1⟩, { name := "a" }, sound, false⟩ rfl rfl⟩

/-- Where only the first byte counts, the second key of a batch is refused for the first. -/
example :
    let first : KeyOrder :=
      { name := "first", compare := fun left right => Bytes.order (left.take 1) (right.take 1) }
    Engine.perform (.putMulti [[97, 98], [97, 99]] [[1], [2]])
        ({ options := {}, order := some first } : MapStore) =
      (.ok [true, false],
        { options := {}, order := some first, entries := [⟨[97, 98], [1]⟩] }) := rfl

end KeyDepot
