import KeyDepot.Proofs.RegistryTables
import KeyDepot.Proofs.Runs
import KeyDepot.Storage.Store

/-! A provider whose databases are declared and closed, in any order and with engines that may fail.
Its two tables stay inverse to each other, its numbers ascend and are given once, and a declaration
that fails changes nothing. -/

namespace KeyDepot

namespace Registry

/-- What one declaration does to a registry, and the number it gives. -/
inductive Change {σ : Type} (registry : Registry σ) : Option DatabaseId → Registry σ → Prop
  | kept : Change registry none registry
  | entered {config : DatabaseConfig} (store : σ) (free : registry.find? config.name = none) :
      Change registry (some registry.number) (registry.enter config store)
  | removed (id : DatabaseId) : Change registry none (registry.remove id).2

end Registry

namespace Provider

variable {σ : Type}

/-- The declaration of a database failed and changed nothing, or it entered an engine under the next
number and a name that was free. -/
inductive Declares (provider : Provider σ) : Outcome (Provider σ) DatabaseId → Prop
  | failed (error : Error) : Declares provider (.error error, provider)
  | entered {config : DatabaseConfig} (store : σ)
      (free : provider.registry.find? config.name = none) :
      Declares provider (.ok provider.registry.number,
        { provider with registry := provider.registry.enter config store })

theorem Declares.failed_eq {provider : Provider σ} {outcome : Outcome (Provider σ) DatabaseId}
    (declares : provider.Declares outcome) {error : Error} (failed : outcome.1 = .error error) :
    outcome.2 = provider := by
  cases declares with
  | failed => rfl
  | entered => cases failed

theorem Declares.change {provider : Provider σ} {outcome : Outcome (Provider σ) DatabaseId}
    (declares : provider.Declares outcome) :
    provider.registry.Change outcome.1.toOption outcome.2.registry := by
  cases declares with
  | failed => exact .kept
  | entered store free => exact .entered store free

variable [Engine σ] (config : DatabaseConfig) (provider : Provider σ)

theorem insert_declares (store : σ) : provider.Declares (provider.insert config store) := by
  unfold insert
  rcases provider.registry.insert_cases config store with ⟨error, failed⟩ | ⟨free, opened, entered⟩
  · rw [failed]
    exact .failed error
  · rw [entered]
    exact .entered opened free

theorem openWith_declares (create : Option KeyOrder → Except Error σ) (order : Option KeyOrder) :
    provider.Declares (provider.openWith create config order) := by
  unfold openWith
  split
  · exact .failed _
  · exact provider.insert_declares config _

theorem addDatabase_declares (create : Option KeyOrder → Except Error σ) :
    provider.Declares (provider.addDatabase create config) := by
  unfold addDatabase
  split
  · exact .failed _
  · exact provider.openWith_declares config create _

theorem attachDatabase_declares (store : σ) :
    provider.Declares (provider.attachDatabase config store) := by
  unfold attachDatabase
  split
  · exact .failed _
  · exact provider.insert_declares config store
  · split
    · exact .failed _
    · exact provider.insert_declares config _

end Provider

namespace Registry

variable {σ : Type} {registry later last : Registry σ} {given others : List DatabaseId}

/-- How a registry came about from an earlier one: its tables are right, the numbers that were given
count on from the earlier next number, and no other number was opened. -/
structure Course (registry : Registry σ) (given : List DatabaseId) (later : Registry σ) : Prop where
  tabled : later.Tabled
  next : later.next = registry.next + given.length
  counts : given.map (fun id => id.number.toNat) = List.range' registry.next given.length
  opened : ∀ id ∈ later.ids, id ∈ registry.ids ∨ id ∈ given

theorem Course.refl (tabled : registry.Tabled) : registry.Course [] registry where
  tabled := tabled
  next := rfl
  counts := rfl
  opened _ member := .inl member

theorem Course.trans (first : registry.Course given later) (second : later.Course others last) :
    registry.Course (given ++ others) last where
  tabled := second.tabled
  next := by rw [second.next, first.next, List.length_append, Nat.add_assoc]
  counts := by
    rw [List.map_append, first.counts, second.counts, first.next, List.length_append,
      List.range'_append_1]
  opened := by
    intro id member
    rcases second.opened id member with early | late
    · exact (first.opened id early).imp_right (List.mem_append_left _)
    · exact .inr (List.mem_append_right _ late)

/-- The numbers given lie between the next number before and the next number after. -/
theorem Course.mem_given (course : registry.Course given later) {id : DatabaseId}
    (member : id ∈ given) :
    registry.next ≤ id.number.toNat ∧ id.number.toNat < later.next := by
  have counted : id.number.toNat ∈ given.map fun id => id.number.toNat :=
    List.mem_map_of_mem member
  rw [course.counts, List.mem_range'_1] at counted
  rw [course.next]
  exact counted

/-- A number that was given earlier and is not open does not come back. -/
theorem Course.stays_closed (course : registry.Course given later) {id : DatabaseId}
    (early : id.number.toNat < registry.next) (closed : id ∉ registry.ids) : id ∉ later.ids := by
  intro opened
  rcases course.opened id opened with open_ | fresh
  · exact closed open_
  · exact Nat.lt_irrefl _ (Nat.lt_of_lt_of_le early (course.mem_given fresh).1)

theorem Course.ascending (course : registry.Course given later) :
    given.Pairwise fun left right => left.number < right.number := by
  have counted : (given.map fun id => id.number.toNat).Pairwise (· < ·) := by
    rw [course.counts]
    exact List.pairwise_lt_range' 1
  exact (List.pairwise_map.mp counted).imp UInt64.lt_iff_toNat_lt.mpr

theorem mem_ids_of_remove {id removed : DatabaseId}
    (member : id ∈ (registry.remove removed).2.ids) :
    id ∈ registry.ids := by
  unfold remove at member
  split at member
  · exact member
  · exact (List.filter_sublist.map Database.id).subset member

theorem Change.course {number : Option DatabaseId} (change : registry.Change number later)
    (tabled : registry.Tabled) (room : number.isSome → registry.next < 2 ^ 64) :
    registry.Course number.toList later := by
  cases change with
  | kept => exact .refl tabled
  | entered store free =>
    have number := toNat_number (room rfl)
    constructor
    · exact tabled.enter free (room rfl) store
    · rfl
    · simp [number]
    · intro id member
      simpa [enter, ids] using member
  | removed id =>
    constructor
    · exact tabled.remove id
    · unfold remove
      split <;> rfl
    · rfl
    · intro id member
      exact .inl (mem_ids_of_remove member)

end Registry

/-- What a provider is told about orders and databases. -/
inductive Declaration (σ : Type) where
  | addOrder (order : KeyOrder)
  /-- Make the engine with the order that the declaration names. -/
  | add (create : Option KeyOrder → Except Error σ) (config : DatabaseConfig)
  /-- Take a ready-made engine, with the order that the declaration names. -/
  | attach (config : DatabaseConfig) (store : σ)
  /-- Make the engine with an order that is resolved already. -/
  | openWith (create : Option KeyOrder → Except Error σ) (config : DatabaseConfig)
      (order : Option KeyOrder)
  | insert (config : DatabaseConfig) (store : σ)
  | remove (id : DatabaseId)

namespace Declaration

variable {σ : Type} {provider : Provider σ}

/-- The type of the answer to a declaration. A removal tells whether the database was open. -/
@[reducible] def Answer : Declaration σ → Type
  | addOrder _ => Unit
  | add .. | attach .. | openWith .. | insert .. => DatabaseId
  | remove _ => Bool

/-- The number a declaration gave to a database. -/
def number? : (declaration : Declaration σ) → Except Error declaration.Answer → Option DatabaseId
  | add .., answer | attach .., answer | openWith .., answer | insert .., answer =>
    answer.toOption
  | addOrder _, _ | remove _, _ => none

/-- The numbers that were given, the oldest first. -/
def numbers (told : List (Told (@Answer σ))) : List DatabaseId :=
  told.filterMap fun answer => number? answer.1 answer.2

theorem numbers_cons (declaration : Declaration σ) (answer : Except Error declaration.Answer)
    (rest : List (Told (@Answer σ))) :
    numbers (⟨declaration, answer⟩ :: rest) =
      (number? declaration answer).toList ++ numbers rest := by
  rw [numbers, List.filterMap_cons]
  cases number? declaration answer <;> rfl

theorem numbers_append (front back : List (Told (@Answer σ))) :
    numbers (front ++ back) = numbers front ++ numbers back :=
  List.filterMap_append

variable [Engine σ]

/-- The declaration as the provider carries it out. -/
def act : (declaration : Declaration σ) → Provider σ → Outcome (Provider σ) declaration.Answer
  | addOrder order, provider => provider.addOrder order
  | add create config, provider => provider.addDatabase create config
  | attach config store, provider => provider.attachDatabase config store
  | openWith create config order, provider => provider.openWith create config order
  | insert config store, provider => provider.insert config store
  | remove id, provider =>
    let (closed, provider) := provider.removeDatabase id
    (.ok closed.isSome, provider)

theorem act_failed {declaration : Declaration σ} {error : Error}
    (failed : (declaration.act provider).1 = .error error) :
    (declaration.act provider).2 = provider := by
  cases declaration with
  | addOrder order =>
    simp only [act, Provider.addOrder] at failed ⊢
    split at failed
    · rename_i taken
      rw [if_pos taken]
    · cases failed
  | add create config => exact (provider.addDatabase_declares config create).failed_eq failed
  | attach config store => exact (provider.attachDatabase_declares config store).failed_eq failed
  | openWith create config order =>
    exact (provider.openWith_declares config create order).failed_eq failed
  | insert config store => exact (provider.insert_declares config store).failed_eq failed
  | remove id => cases failed

theorem act_change (declaration : Declaration σ) (provider : Provider σ) :
    provider.registry.Change (number? declaration (declaration.act provider).1)
      (declaration.act provider).2.registry := by
  cases declaration with
  | addOrder order =>
    simp only [act, Provider.addOrder]
    split <;> exact .kept
  | add create config => exact (provider.addDatabase_declares config create).change
  | attach config store => exact (provider.attachDatabase_declares config store).change
  | openWith create config order => exact (provider.openWith_declares config create order).change
  | insert config store => exact (provider.insert_declares config store).change
  | remove id => exact .removed id

theorem run_course (provider : Provider σ) (tabled : provider.registry.Tabled)
    (declarations : List (Declaration σ))
    (room : provider.registry.next + (numbers (feed act declarations provider).1).length ≤ 2 ^ 64) :
    provider.registry.Course (numbers (feed act declarations provider).1)
      (feed act declarations provider).2.registry := by
  induction declarations generalizing provider with
  | nil => exact .refl tabled
  | cons declaration rest ih =>
    simp only [feed, numbers_cons, List.length_append] at room ⊢
    have first := (act_change declaration provider).course tabled (by
      intro given
      obtain ⟨number, same⟩ := Option.isSome_iff_exists.mp given
      rw [same, Option.toList_some, List.length_singleton] at room
      omega)
    exact first.trans (ih _ first.tabled (by rw [first.next]; omega))

/-- A number that was given and then removed belongs to no database again. -/
theorem removed_stays_closed (provider : Provider σ) (tabled : provider.registry.Tabled)
    {earlier later : List (Declaration σ)} {id : DatabaseId}
    (room : provider.registry.next +
      (numbers (feed act (earlier ++ .remove id :: later) provider).1).length ≤ 2 ^ 64)
    (given : id ∈ numbers (feed act earlier provider).1) :
    (feed act (earlier ++ .remove id :: later) provider).2.registry.get? id = none := by
  let before := (feed act earlier provider).2
  let closed := { before with registry := (before.registry.remove id).2 }
  have whole : feed act (earlier ++ .remove id :: later) provider =
      ((feed act earlier provider).1 ++ ⟨.remove id, .ok (before.registry.remove id).1.isSome⟩ ::
        (feed act later closed).1, (feed act later closed).2) := by
    rw [feed_append]
    rfl
  have counted : numbers (feed act (earlier ++ .remove id :: later) provider).1 =
      numbers (feed act earlier provider).1 ++ numbers (feed act later closed).1 := by
    rw [whole, numbers_append, numbers_cons]
    rfl
  rw [counted, List.length_append] at room
  have first := run_course provider tabled earlier (by omega)
  have removal := (Registry.Change.removed id).course first.tabled nofun
  have same : closed.registry.next = before.registry.next := removal.next
  have reached : before.registry.next = _ := first.next
  have second := run_course closed removal.tabled later (by omega)
  have early : id.number.toNat < closed.registry.next := by
    rw [same]
    exact (first.mem_given given).2
  have missing : id ∉ closed.registry.ids := by
    rw [removal.tabled.mem_ids_iff, Registry.get?_remove]
    exact Bool.false_ne_true
  have never := second.stays_closed early missing
  rw [second.tabled.mem_ids_iff, Option.not_isSome_iff_eq_none] at never
  rw [whole]
  exact never

/-- Whatever is declared and closed at a provider, and whichever engines fail: the open database of
a name is the one whose number the name leads to, no two have one name, and their numbers are listed
in ascending order. Each number that is given is greater than those before it, so one that was
closed stays closed. A declaration that fails leaves the provider as it was. -/
theorem tables_stay_inverse (target : UInt8) (declarations : List (Declaration σ)) :
    (∀ (declaration : Declaration σ) (provider : Provider σ) (error : Error),
      (declaration.act provider).1 = .error error → (declaration.act provider).2 = provider) ∧
    let (told, provider) := feed act declarations ({ id := target } : Provider σ)
    (numbers told).length < 2 ^ 64 →
      (∀ name id, provider.registry.find? name = some id ↔
        ∃ db, provider.registry.get? id = some db ∧ db.config.name = name) ∧
      (provider.registry.databases.map fun db => db.config.name).Nodup ∧
      (provider.registry.ids.Pairwise fun left right => left.number < right.number) ∧
      (∀ id, id ∈ provider.registry.ids ↔ (provider.registry.get? id).isSome) ∧
      ((numbers told).Pairwise fun left right => left.number < right.number) ∧
      (∀ earlier id later, declarations = earlier ++ .remove id :: later →
        id ∈ numbers (feed act earlier ({ id := target } : Provider σ)).1 →
        provider.registry.get? id = none) := by
  refine ⟨fun declaration provider error => act_failed, ?_⟩
  intro few
  have room : 1 + (numbers (feed act declarations { id := target }).1).length ≤ 2 ^ 64 :=
    Nat.one_add_le_iff.mpr few
  have course := run_course { id := target } .empty declarations room
  refine ⟨fun name id => course.tabled.find?_iff, course.tabled.names_nodup, ?_,
    fun id => course.tabled.mem_ids_iff, course.ascending, ?_⟩
  · exact List.pairwise_map.mpr course.tabled.ascending
  · rintro earlier id later rfl given
    exact removed_stays_closed { id := target } .empty room given

/-- An order that is not known, a name that is taken, an engine that does not open, and a name that
is declared again after its database was closed. -/
def visit : List (Declaration Store) :=
  [.add (Store.create [] .map {}) { name := "books" },
   .add (Store.create [] .map {}) { name := "notes", order := some "nocase" },
   .add (Store.create [] .null {}) { name := "books" },
   .attach { name := "logs" } (.brittle { broken := true, map := { options := {} } }),
   .remove ⟨1⟩,
   .add (Store.create [] .durable {}) { name := "books" }]

theorem tables_stay_inverse_visit :
    let (told, provider) := feed act visit ({ id := 7 } : Provider Store)
    (numbers told).length < 2 ^ 64 ∧ numbers told = [⟨1⟩, ⟨2⟩] ∧
      provider.registry.get? ⟨1⟩ = none ∧
      ∃ db, provider.registry.get? ⟨2⟩ = some db ∧ db.config.name = "books" := by
  have few : (numbers (feed act visit ({ id := 7 } : Provider Store)).1).length < 2 ^ 64 := by
    decide
  obtain ⟨inverse, -, -, -, -, closed⟩ := (tables_stay_inverse 7 visit).2 few
  refine ⟨few, by decide, ?_, ?_⟩
  · exact closed (visit.take 4) ⟨1⟩ (visit.drop 5) rfl (by decide)
  · exact (inverse "books" ⟨2⟩).mp (by decide)

end Declaration

end KeyDepot
