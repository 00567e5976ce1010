import KeyDepot.Proofs.ByteMaps
import KeyDepot.Proofs.Runs
import KeyDepot.Storage.DurableStore
import KeyDepot.Storage.MapStore

namespace KeyDepot

/-- What an engine is asked for while its order stays. -/
inductive EngineStep where
  | openDatabase (name : String)
  | ask (operation : Operation)
  deriving DecidableEq, Repr

namespace EngineStep

/-- The type of the answer to a step. -/
@[reducible] def Answer : EngineStep → Type
  | openDatabase _ => Unit
  | ask operation => operation.Answer

def act {σ : Type} [Engine σ] : (step : EngineStep) → σ → Outcome σ step.Answer
  | openDatabase name, state => Engine.openDatabase name state
  | ask operation, state => Engine.perform operation state

end EngineStep

variable {τ : Type}

/-- A store with the bytewise order and a durable store in memory, with one policy. -/
structure Alike (store : MapStore) (durable : DurableStore τ) : Prop where
  order : store.order = none
  inMemory : durable.options.inMemory = true
  policy : durable.options.rejectsExisting = store.options.rejectsExisting

theorem Alike.comparison {store : MapStore} {durable : DurableStore τ}
    (alike : Alike store durable) : store.comparison = Bytes.order := by
  rw [MapStore.comparison, alike.order]

variable [ByteMap τ] {sound : τ → Prop}

namespace ByteMap.Lawful

variable {map : τ} {key value : Bytes} {options : StoreOptions}

theorem putValue_refused (lawful : Lawful sound) (holds : sound map)
    (rejects : options.rejectsExisting = true) (held : (get key map).isSome = true) :
    DurableStore.putValue options key value map = (false, map) := by
  have some_ : get key map ≠ none := Option.isSome_iff_ne_none.mp held
  rw [DurableStore.putValue, if_pos rejects]
  exact lawful.not_swapped holds some_ (some value)

/-- A put that is not refused inserts the value, by a swap from nothing or outright. -/
theorem putValue_stored (lawful : Lawful sound) (holds : sound map)
    (allowed : options.rejectsExisting = true → get key map = none) :
    (DurableStore.putValue options key value map).1 = true ∧
      sound (DurableStore.putValue options key value map).2 ∧
      range none none (DurableStore.putValue options key value map).2 =
        Entries.insert Bytes.order key value (range none none map) := by
  by_cases rejects : options.rejectsExisting = true
  · rw [DurableStore.putValue, if_pos rejects]
    obtain ⟨swapped, changed⟩ := lawful.swapped holds (some value)
    rw [allowed rejects] at swapped changed
    have still : sound (compareAndSwap key none (some value) map).2 := lawful.swap holds
    exact ⟨swapped, still, lawful.range_eq_insert holds still changed⟩
  · rw [DurableStore.putValue, if_neg rejects]
    have still : sound (ByteMap.insert key value map) := lawful.insert holds
    exact ⟨rfl, still, lawful.range_eq_insert holds still (lawful.get_insert holds key value)⟩

theorem after_eq (lawful : Lawful sound) (holds : sound map) (start : Bytes) :
    DurableStore.after start map = Entries.after Bytes.order start (range none none map) := by
  rw [DurableStore.after, Entries.after]
  split
  · rfl
  · rw [lawful.range_eq holds]
    simp only [Entries.inside, Option.all_some, Option.all_none, Bool.and_true]

theorem page_eq (lawful : Lawful sound) (holds : sound map) (start : Bytes) (count : Nat)
    (stem : Bytes) :
    DurableStore.page start count stem map =
      Entries.page Bytes.order start count stem (range none none map) := by
  rw [DurableStore.page, lawful.after_eq holds, Entries.page]

theorem bounded_eq (lawful : Lawful sound) (holds : sound map) (lower upper : Bytes)
    (limit : Nat) :
    DurableStore.range lower upper limit map =
      Entries.range Bytes.order lower upper limit (range none none map) := by
  rw [DurableStore.range, Entries.range, Entries.between]
  split
  · rw [lawful.range_eq holds]
    rfl
  · rw [List.take_nil, ite_self]

end ByteMap.Lawful

/-- Both are alike, and the map that is open in the durable store has the entries of the store. -/
structure Mirrors (sound : τ → Prop) (store : MapStore) (durable : DurableStore τ) : Prop
    extends Alike store durable where
  opened : ∃ database, durable.current = some database ∧ sound database.map ∧
    ByteMap.range none none database.map = store.entries

theorem Alike.openDatabase {store : MapStore} {durable : DurableStore τ}
    (alike : Alike store durable) (lawful : ByteMap.Lawful sound) (name : String) :
    Mirrors sound (store.openDatabase name) (durable.openDatabase name) where
  order := alike.order
  inMemory := alike.inMemory
  policy := alike.policy
  opened := by
    refine ⟨⟨name, ByteMap.blank⟩, ?_, lawful.blank, lawful.range_blank⟩
    rw [DurableStore.openDatabase, alike.inMemory, if_pos rfl]

namespace Mirrors

variable {store : MapStore} {durable : DurableStore τ}

/-- What is done to the map is done to the entries. -/
theorem withMap {α : Type} {run : τ → α × τ} {answer : α} {entries : Entries}
    (mirrors : Mirrors sound store durable)
    (same : ∀ map, sound map → ByteMap.range none none map = store.entries →
      (run map).1 = answer ∧ sound (run map).2 ∧
        ByteMap.range none none (run map).2 = entries) :
    (.ok answer : Except Error α) = (durable.withMap run).1 ∧
      Mirrors sound { store with entries } (durable.withMap run).2 := by
  obtain ⟨database, current, holds, held⟩ := mirrors.opened
  obtain ⟨answers, still, changed⟩ := same database.map holds held
  have ran : durable.withMap run = (.ok (run database.map).1,
      { durable with current := some { database with map := (run database.map).2 } }) := by
    rw [DurableStore.withMap, current]
  rw [ran, answers]
  exact ⟨rfl,
    { order := mirrors.order
      inMemory := mirrors.inMemory
      policy := mirrors.policy
      opened := ⟨_, rfl, still, changed⟩ }⟩

theorem reading {α : Type} {read : τ → α} {answer : α} (mirrors : Mirrors sound store durable)
    (same : ∀ map, sound map → ByteMap.range none none map = store.entries → read map = answer) :
    (.ok answer : Except Error α) = (durable.reading read).1 ∧
      Mirrors sound store (durable.reading read).2 :=
  mirrors.withMap fun map holds held => ⟨same map holds held, holds, held⟩

variable {map : τ}

/-- A key leads to the same in a map and in a store that has the entries of the map. -/
theorem get_eq (mirrors : Mirrors sound store durable) (lawful : ByteMap.Lawful sound)
    (holds : sound map) (held : ByteMap.range none none map = store.entries) (key : Bytes) :
    ByteMap.get key map = store.get key := by
  rw [MapStore.get, mirrors.comparison, ← held, lawful.find?_range holds, Option.map_map]
  exact (Option.map_id' ..).symm

theorem contains_eq (mirrors : Mirrors sound store durable) (lawful : ByteMap.Lawful sound)
    (holds : sound map) (held : ByteMap.range none none map = store.entries) (key : Bytes) :
    (ByteMap.get key map).isSome = store.contains key := by
  rw [mirrors.get_eq lawful holds held, MapStore.get, Option.isSome_map]
  rfl

theorem put (mirrors : Mirrors sound store durable) (lawful : ByteMap.Lawful sound)
    (key value : Bytes) :
    (.ok (store.put key value).1 : Except Error Bool) = (durable.put key value).1 ∧
      Mirrors sound (store.put key value).2 (durable.put key value).2 := by
  by_cases refused : (store.contains key && store.options.rejectsExisting) = true
  · have kept : store.put key value = (false, store) := if_pos refused
    obtain ⟨present, rejects⟩ := Bool.and_eq_true_iff.mp refused
    rw [kept]
    refine mirrors.withMap ?_
    intro map holds held
    have some_ := (mirrors.contains_eq lawful holds held key).trans present
    rw [lawful.putValue_refused holds (mirrors.policy.trans rejects) some_]
    exact ⟨rfl, holds, held⟩
  · have stored : store.put key value =
        (true, { store with entries := store.entries.insert store.comparison key value }) :=
      if_neg refused
    rw [stored]
    refine mirrors.withMap ?_
    intro map holds held
    rw [mirrors.comparison, ← held]
    apply lawful.putValue_stored holds
    intro rejects
    rw [← mirrors.policy, rejects, Bool.and_true,
      ← mirrors.contains_eq lawful holds held] at refused
    exact Option.not_isSome_iff_eq_none.mp refused

theorem erase (mirrors : Mirrors sound store durable) (lawful : ByteMap.Lawful sound)
    (key : Bytes) :
    (.ok (store.erase key).1 : Except Error Bool) =
        (durable.withMap (DurableStore.eraseKey key)).1 ∧
      Mirrors sound (store.erase key).2 (durable.withMap (DurableStore.eraseKey key)).2 := by
  refine mirrors.withMap ?_
  intro map holds held
  have answers : (DurableStore.eraseKey key map).1 = store.contains key := by
    rw [← mirrors.contains_eq lawful holds held, ← lawful.removed holds]
    rfl
  refine ⟨answers, lawful.remove holds, ?_⟩
  rw [mirrors.comparison, ← held]
  exact lawful.range_remove holds key

theorem perform (mirrors : Mirrors sound store durable) (lawful : ByteMap.Lawful sound)
    (operation : Operation) :
    (store.perform operation).1 = (durable.perform operation).1 ∧
      Mirrors sound (store.perform operation).2 (durable.perform operation).2 := by
  cases operation with
  | put key value => exact mirrors.put lawful key value
  | putMulti keys values =>
    have each (key value : Bytes) {store : MapStore} {durable : DurableStore τ}
        (mirrors : Mirrors sound store durable) := mirrors.put lawful key value
    exact MapStore.putMulti_agree each keys values mirrors
  | get key =>
    apply mirrors.reading
    intro map holds held
    exact mirrors.get_eq lawful holds held key
  | contains key =>
    apply mirrors.reading
    intro map holds held
    rw [lawful.contains_eq holds]
    exact mirrors.contains_eq lawful holds held key
  | erase key => exact mirrors.erase lawful key
  | listKeys start count stem =>
    apply mirrors.reading
    intro map holds held
    rw [lawful.page_eq holds, held, MapStore.page, mirrors.comparison]
  | listPairs start count stem =>
    apply mirrors.reading
    intro map holds held
    rw [lawful.page_eq holds, held, MapStore.page, mirrors.comparison]
  | keyRange lower upper limit =>
    apply mirrors.reading
    intro map holds held
    rw [lawful.bounded_eq holds, held, MapStore.range, mirrors.comparison]
  | pairRange lower upper limit =>
    apply mirrors.reading
    intro map holds held
    rw [lawful.bounded_eq holds, held, MapStore.range, mirrors.comparison]
  | sync =>
    apply mirrors.reading
    intro map holds held
    rfl

theorem act (mirrors : Mirrors sound store durable) (lawful : ByteMap.Lawful sound)
    (step : EngineStep) :
    (step.act store).1 = (step.act durable).1 ∧
      Mirrors sound (step.act store).2 (step.act durable).2 := by
  cases step with
  | openDatabase name => exact ⟨rfl, mirrors.toAlike.openDatabase lawful name⟩
  | ask operation => exact mirrors.perform lawful operation

end Mirrors

/-- A store with the bytewise order and a durable store in memory, both with these options, give the
same answers from the opening of their first database on, whatever they are asked for and whatever
databases are opened between. -/
theorem engines_agree (lawful : ByteMap.Lawful sound) (options : StoreOptions) (shelf : Shelf τ)
    (name : String) (steps : List EngineStep) :
    let opening := EngineStep.openDatabase name
    let inMemory : DurableStore τ := { options := { options with inMemory := true }, shelf }
    (feed EngineStep.act (opening :: steps) ({ options } : MapStore)).1 =
      (feed EngineStep.act (opening :: steps) inMemory).1 := by
  intro opening inMemory
  have alike : Alike ({ options } : MapStore) inMemory := ⟨rfl, rfl, rfl⟩
  have each (step : EngineStep) {store : MapStore} {durable : DurableStore τ}
      (mirrors : Mirrors sound store durable) := mirrors.act lawful step
  have agree := (feed_agree each steps (alike.openDatabase lawful name)).1
  exact congrArg (List.cons ⟨opening, .ok ()⟩) agree

/-- Both refuse the second put of a key, store the rest of a batch, list what follows a key with a
prefix or up to a bound, and hold nothing when a database is opened again. -/
theorem engines_agree_reopened :
    let steps : List EngineStep :=
      [.ask (.put [97] [1]), .ask (.putMulti [[97, 98], [97], [98]] [[2], [3], [4]]),
        .ask (.listKeys [97] 5 [97]), .ask (.pairRange [97] [98] 1), .ask (.putMulti [[99]] []),
        .openDatabase "left", .ask (.contains [97])]
    let shelf : Shelf Entries := [("left", [⟨[97], [9]⟩])]
    let answers : List (Told EngineStep.Answer) :=
      [⟨.openDatabase "left", .ok ()⟩, ⟨.ask (.put [97] [1]), .ok true⟩,
        ⟨.ask (.putMulti [[97, 98], [97], [98]] [[2], [3], [4]]), .ok [true, false, true]⟩,
        ⟨.ask (.listKeys [97] 5 [97]), .ok [[97, 98]]⟩,
        ⟨.ask (.pairRange [97] [98] 1), .ok [⟨[97, 98], [2]⟩]⟩,
        ⟨.ask (.putMulti [[99]] []), .error (.invalidArgument (.batchLengths 1 0))⟩,
        ⟨.openDatabase "left", .ok ()⟩, ⟨.ask (.contains [97]), .ok false⟩]
    (feed EngineStep.act (.openDatabase "left" :: steps)
        ({ options := {} } : MapStore)).1 = answers ∧
      (feed EngineStep.act (.openDatabase "left" :: steps)
        ({ options := { inMemory := true }, shelf } : DurableStore Entries)).1 = answers := by
  intro steps shelf answers
  have told : (feed EngineStep.act (.openDatabase "left" :: steps)
      ({ options := {} } : MapStore)).1 = answers := rfl
  exact ⟨told, (engines_agree entries_lawful {} shelf "left" steps).symm.trans told⟩

end KeyDepot
