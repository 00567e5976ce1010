import KeyDepot.Proofs.PoolStock

/-! Pools over a run in which buffers are lent, written to, dropped and given back, and buffers from
elsewhere are given to them. A class keeps buffers of its own bracket of capacities only, so that a
loan goes back to the class it was asked of. -/

namespace KeyDepot

namespace Pool

variable {sizes : List Nat} {classes : List SizeClass} {room length capacity place size : Nat}

/-- No class between the one a buffer goes back to and the capacity of the buffer. -/
theorem le_of_fitting? (ascending : sizes.Pairwise (· < ·))
    (found : fitting? capacity sizes = some size) {other : Nat} (member : other ∈ sizes)
    (enough : other ≤ capacity) : other ≤ size := by
  induction sizes with
  | nil => cases member
  | cons first rest ih =>
    obtain ⟨above, others⟩ := List.pairwise_cons.mp ascending
    rw [fitting?_cons] at found
    cases later : fitting? capacity rest with
    | some greater =>
      rw [later, Option.some_or] at found
      obtain rfl := Option.some.inj found
      rcases List.mem_cons.mp member with rfl | deeper
      · exact Nat.le_of_lt (above _ (mem_of_fitting? later).1)
      · exact ih others later deeper
    | none =>
      rw [later, Option.none_or] at found
      split at found
      · obtain rfl := Option.some.inj found
        rcases List.mem_cons.mp member with rfl | deeper
        · exact Nat.le_refl _
        · exact absurd enough (Nat.not_le.mpr (fitting?_eq_none_iff.mp later other deeper))
      · cases found

/-- The bracket of a class: at least its own size, below the next one, and in the largest class its
own size exactly. -/
def Bracket (sizes : List Nat) (place size capacity : Nat) : Prop :=
  size ≤ capacity ∧ (∀ next, sizes[place + 1]? = some next → capacity < next) ∧
    (sizes.length = place + 1 → capacity = size)

theorem shelf?_eq_some (shelved : shelf? sizes capacity = some size) :
    capacity ≤ sizes.getLast?.getD 0 ∧ fitting? capacity sizes = some size := by
  rw [shelf?] at shelved
  split at shelved
  · cases shelved
  · rename_i within
    exact ⟨Nat.not_lt.mp within, shelved⟩

theorem shelf?_eq_none (short : ∀ size ∈ sizes, size < capacity) :
    shelf? sizes capacity = none := by
  cases last : sizes.getLast? with
  | none =>
    obtain rfl := List.getLast?_eq_none_iff.mp last
    rw [shelf?]
    split <;> rfl
  | some greatest =>
    have beyond := short greatest (List.mem_of_getLast? last)
    simp [shelf?, last, beyond]

theorem bracket_of_shelf? (ascending : sizes.Pairwise (· < ·))
    (shelved : shelf? sizes capacity = some size) (there : sizes[place]? = some size) :
    Bracket sizes place size capacity := by
  obtain ⟨within, fits⟩ := shelf?_eq_some shelved
  obtain ⟨-, enough⟩ := mem_of_fitting? fits
  refine ⟨enough, ?_, ?_⟩
  · intro next after
    obtain ⟨early, rfl⟩ := List.getElem?_eq_some_iff.mp there
    obtain ⟨late, rfl⟩ := List.getElem?_eq_some_iff.mp after
    have greater := List.pairwise_iff_getElem.mp ascending place (place + 1) early late (by omega)
    apply Nat.lt_of_not_le
    intro reached
    have least := le_of_fitting? ascending fits (List.getElem_mem late) reached
    omega
  · intro last
    rw [List.getLast?_eq_getElem?, last, Nat.add_sub_cancel, there, Option.getD_some] at within
    exact Nat.le_antisymm within enough

/-- The place of the class that a request of this length is served from. -/
def asked? (length : Nat) (classes : List SizeClass) : Option Nat :=
  classes.findIdx? fun sizeClass => decide (length ≤ sizeClass.size)

theorem acquireFrom_of_none (alone : asked? length classes = none) :
    acquireFrom length classes = (⟨length, []⟩, classes) := by
  induction classes with
  | nil => rfl
  | cons first rest ih =>
    rw [asked?, List.findIdx?_cons] at alone
    by_cases enough : length ≤ first.size
    · simp [enough] at alone
    · simp only [enough, decide_false, Bool.false_eq_true, if_false,
        Option.map_eq_none_iff] at alone
      simp only [acquireFrom, enough, if_false, ih alone]

theorem acquireFrom_of_some (asked : asked? length classes = some place) :
    ∃ sizeClass, classes[place]? = some sizeClass ∧ length ≤ sizeClass.size ∧
      acquireFrom length classes = (sizeClass.idle.headD ⟨sizeClass.size, []⟩,
        classes.set place { sizeClass with idle := sizeClass.idle.tail }) := by
  induction classes generalizing place with
  | nil => cases asked
  | cons first rest ih =>
    rw [asked?, List.findIdx?_cons] at asked
    by_cases enough : length ≤ first.size
    · simp only [enough, decide_true, if_true] at asked
      obtain rfl := Option.some.inj asked
      refine ⟨first, rfl, enough, ?_⟩
      obtain ⟨size, idle⟩ := first
      simp only [acquireFrom, enough, if_true]
      cases idle <;> rfl
    · simp only [enough, decide_false, Bool.false_eq_true, if_false] at asked
      obtain ⟨later, found, rfl⟩ := Option.map_eq_some_iff.mp asked
      obtain ⟨sizeClass, there, large, taken⟩ := ih found
      refine ⟨sizeClass, there, large, ?_⟩
      simp only [acquireFrom, enough, if_false, taken, List.set_cons_succ]

/-- The smallest of the classes that are large enough is the one asked. -/
theorem asked?_eq_some (ascending : (classes.map SizeClass.size).Pairwise (· < ·))
    {sizeClass : SizeClass} (there : classes[place]? = some sizeClass)
    (enough : length ≤ sizeClass.size)
    (smallest : ∀ other ∈ classes, length ≤ other.size → sizeClass.size ≤ other.size) :
    asked? length classes = some place := by
  obtain ⟨within, rfl⟩ := List.getElem?_eq_some_iff.mp there
  rw [asked?, List.findIdx?_eq_some_iff_getElem]
  refine ⟨within, decide_eq_true enough, ?_⟩
  intro earlier before
  rw [decide_eq_true_iff]
  intro large
  have less := List.pairwise_iff_getElem.mp (List.pairwise_map.mp ascending) earlier place
    (Nat.lt_trans before within) within before
  exact absurd (smallest _ (List.getElem_mem _) large) (Nat.not_le.mpr less)

/-- A change to the class of one size is a change at its place. -/
theorem map_at (ascending : (classes.map SizeClass.size).Pairwise (· < ·))
    {sizeClass : SizeClass} (there : classes[place]? = some sizeClass)
    (change : SizeClass → SizeClass) :
    (classes.map fun other => if sizeClass.size = other.size then change other else other) =
      classes.set place (change sizeClass) := by
  have sorted := List.pairwise_iff_getElem.mp (List.pairwise_map.mp ascending)
  obtain ⟨within, rfl⟩ := List.getElem?_eq_some_iff.mp there
  apply List.ext_getElem
  · simp
  · intro other inside _
    rw [List.length_map] at inside
    by_cases same : place = other
    · subst same
      simp
    · have apart : classes[place].size ≠ classes[other].size := by
        rcases Nat.lt_or_gt_of_ne same with before | after
        · exact Nat.ne_of_lt (sorted place other within inside before)
        · exact Nat.ne_of_gt (sorted other place inside within after)
      simp [apart, same]

/-- A request gets that many zero bytes. They come from an idle buffer of the smallest class that is
large enough, or from a new one of its size; when no class is, none changes. -/
structure Supplied (pool : Pool) (length : Nat) (buffer : Buffer) (after : Pool) : Prop where
  zeros : buffer.bytes = Bytes.zeros length
  fits : length ≤ buffer.capacity
  smallest : ∀ (place : Nat) (sizeClass : SizeClass), pool.classes[place]? = some sizeClass →
    length ≤ sizeClass.size →
      (∀ other ∈ pool.classes, length ≤ other.size → sizeClass.size ≤ other.size) →
      match sizeClass.idle with
      | spare :: idle => buffer.capacity = spare.capacity ∧
          after = { pool with classes := pool.classes.set place { sizeClass with idle } }
      | [] => buffer.capacity = sizeClass.size ∧ after = pool
  alone : (∀ sizeClass ∈ pool.classes, sizeClass.size < length) → after = pool

/-- A request is supplied, unless no sequence can be that long. -/
def Supplies (pool : Pool) (length : Nat) : Prop :=
  (length ≤ Bytes.maxLength → ∃ buffer after, pool.acquire length = .ok (buffer, after) ∧
      pool.Supplied length buffer after) ∧
    (Bytes.maxLength < length → pool.acquire length = .error .capacityOverflow)

variable {pool : Pool}

theorem Stocked.supplied (stocked : pool.Stocked sizes room) (length : Nat) :
    pool.Supplied length { (acquireFrom length pool.classes).1 with bytes := Bytes.zeros length }
      { pool with classes := (acquireFrom length pool.classes).2 } := by
  cases asked : asked? length pool.classes with
  | none =>
    rw [acquireFrom_of_none asked]
    have short := List.findIdx?_eq_none_iff.mp asked
    refine ⟨rfl, Nat.le_refl length, ?_, fun _ => rfl⟩
    intro place sizeClass there enough _
    have small := short sizeClass (List.mem_of_getElem? there)
    exact absurd enough (of_decide_eq_false small)
  | some place =>
    obtain ⟨chosen, there, enough, taken⟩ := acquireFrom_of_some asked
    have held := List.mem_of_getElem? there
    rw [taken]
    have large := (mem_of_fitting? (shelf?_eq_some (stocked.shelf?_headD held)).2).2
    refine ⟨rfl, Nat.le_trans enough large, ?_, ?_⟩
    · intro other sizeClass named large least
      have placed := asked?_eq_some stocked.sorted named large least
      rw [asked] at placed
      obtain rfl := Option.some.inj placed
      rw [there] at named
      obtain rfl := Option.some.inj named
      obtain ⟨size, idle⟩ := chosen
      cases idle with
      | cons buffer rest => exact ⟨rfl, rfl⟩
      | nil =>
        obtain ⟨within, here⟩ := List.getElem?_eq_some_iff.mp there
        refine ⟨rfl, ?_⟩
        rw [List.tail_nil, ← here, List.set_getElem_self within]
    · intro small
      exact absurd enough (Nat.not_le.mpr (small chosen held))

theorem Stocked.supplies (stocked : pool.Stocked sizes room) (length : Nat) :
    pool.Supplies length :=
  ⟨fun short => ⟨_, _, pool.acquire_of_le short, stocked.supplied length⟩, pool.acquire_of_lt⟩

theorem Stocked.release_of_none (stocked : pool.Stocked sizes room) {buffer : Buffer}
    (homeless : shelf? sizes buffer.capacity = none) : pool.release buffer = pool := by
  simp [stocked.release_eq, homeless]

/-- A buffer that belongs to a class goes there, or is dropped because that is full. -/
theorem Stocked.release_of_some (stocked : pool.Stocked sizes room) {buffer : Buffer}
    {sizeClass : SizeClass} (there : pool.classes[place]? = some sizeClass)
    (home : shelf? sizes buffer.capacity = some sizeClass.size) :
    pool.release buffer =
      if sizeClass.idle.length < room then
        { pool with
          classes := pool.classes.set place { sizeClass with idle := buffer :: sizeClass.idle } }
      else pool := by
  rw [stocked.release_eq, home]
  simp only [Option.some.injEq, ite_and]
  rw [map_at stocked.sorted there]
  split
  · rfl
  · obtain ⟨within, here⟩ := List.getElem?_eq_some_iff.mp there
    rw [← here, List.set_getElem_self within]

end Pool

/-- A buffer that is out, and the place of the class that it was asked of. One that is larger than
all classes was asked of none. -/
structure Loan where
  buffer : Buffer
  origin : Option Nat
  deriving DecidableEq, Repr

/-- A pool and what is out of it. -/
structure Lending where
  pool : Pool
  loans : List Loan := []
  deriving DecidableEq, Repr

namespace Lending

/-- What can happen around a pool. A loan is named by its place among those that are out. -/
inductive Event where
  | acquire (length : Nat)
  | overwrite (place : Nat) (bytes : Bytes)
  | drop (place : Nat)
  | release (place : Nat)
  | releaseForeign (buffer : Buffer)
  deriving DecidableEq, Repr

/-- Whatever is written to a loan fits the capacity of its buffer. -/
def write (bytes : Bytes) (loan : Loan) : Loan :=
  if bytes.length ≤ loan.buffer.capacity then
    { loan with buffer := { loan.buffer with bytes } }
  else loan

def act (event : Event) (lending : Lending) : Lending :=
  match event with
  | .acquire length =>
    match lending.pool.acquire length with
    | .error _ => lending
    | .ok (buffer, pool) =>
      ⟨pool, ⟨buffer, Pool.asked? length lending.pool.classes⟩ :: lending.loans⟩
  | .overwrite place bytes => { lending with loans := lending.loans.modify place (write bytes) }
  | .drop place => { lending with loans := lending.loans.eraseIdx place }
  | .release place =>
    match lending.loans[place]? with
    | some loan => ⟨lending.pool.release loan.buffer, lending.loans.eraseIdx place⟩
    | none => lending
  | .releaseForeign buffer => { lending with pool := lending.pool.release buffer }

def run (events : List Event) (lending : Lending) : Lending :=
  events.foldl (fun lending event => lending.act event) lending

end Lending

/-- A loan that was asked of a class belongs to it; one that was asked of none belongs to none. -/
def Loan.Belongs (sizes : List Nat) (loan : Loan) : Prop :=
  match loan.origin with
  | none => Pool.shelf? sizes loan.buffer.capacity = none
  | some place => ∃ size, sizes[place]? = some size ∧
      Pool.shelf? sizes loan.buffer.capacity = some size

variable {sizes : List Nat} {room : Nat} {pool : Pool}

theorem Pool.Stocked.lends (stocked : pool.Stocked sizes room) {length : Nat} {buffer : Buffer}
    {after : Pool} (acquired : pool.acquire length = .ok (buffer, after)) :
    Loan.Belongs sizes ⟨buffer, Pool.asked? length pool.classes⟩ := by
  obtain ⟨-, rfl, -⟩ := Pool.acquire_eq_ok acquired
  cases asked : Pool.asked? length pool.classes with
  | none =>
    have short := List.findIdx?_eq_none_iff.mp asked
    have homeless : Pool.shelf? sizes length = none := by
      apply Pool.shelf?_eq_none
      intro size member
      rw [← stocked.sized] at member
      obtain ⟨sizeClass, held, rfl⟩ := List.mem_map.mp member
      exact Nat.not_le.mp (of_decide_eq_false (short sizeClass held))
    rw [Pool.acquireFrom_of_none asked]
    exact homeless
  | some place =>
    obtain ⟨sizeClass, there, -, taken⟩ := Pool.acquireFrom_of_some asked
    rw [taken]
    refine ⟨sizeClass.size, ?_, stocked.shelf?_headD (List.mem_of_getElem? there)⟩
    rw [stocked.getElem?_sizes, there]
    rfl

namespace Lending

/-- Pools that keep what belongs to them, with loans that belong where they were asked of. -/
structure Orderly (sizes : List Nat) (room : Nat) (lending : Lending) : Prop where
  stocked : lending.pool.Stocked sizes room
  belongs : ∀ loan ∈ lending.loans, loan.Belongs sizes

variable {lending : Lending}

theorem write_belongs {loan : Loan} (belongs : loan.Belongs sizes) (bytes : Bytes) :
    (write bytes loan).Belongs sizes := by
  rw [write]
  split
  · exact belongs
  · exact belongs

theorem Orderly.act (orderly : lending.Orderly sizes room) (event : Event) :
    (lending.act event).Orderly sizes room := by
  obtain ⟨stocked, belongs⟩ := orderly
  have fewer : ∀ place, ∀ loan ∈ lending.loans.eraseIdx place, loan.Belongs sizes :=
    fun place loan member => belongs loan (List.mem_of_mem_eraseIdx member)
  cases event with
  | acquire length =>
    rw [Lending.act]
    split
    · exact ⟨stocked, belongs⟩
    · rename_i buffer pool acquired
      exact ⟨(stocked.acquire acquired []).1,
        List.forall_mem_cons.mpr ⟨stocked.lends acquired, belongs⟩⟩
  | overwrite place bytes =>
    refine ⟨stocked, ?_⟩
    intro loan member
    obtain ⟨other, there⟩ := List.mem_iff_getElem?.mp member
    rw [Lending.act, List.getElem?_modify] at there
    obtain ⟨old, held, rfl⟩ := Option.map_eq_some_iff.mp there
    have kept := belongs old (List.mem_of_getElem? held)
    split
    · exact write_belongs kept bytes
    · exact kept
  | drop place => exact ⟨stocked, fewer place⟩
  | release place =>
    rw [Lending.act]
    split
    · exact ⟨(stocked.release _ []).1, fewer place⟩
    · exact ⟨stocked, belongs⟩
  | releaseForeign buffer => exact ⟨(stocked.release buffer []).1, belongs⟩

theorem Orderly.run (orderly : lending.Orderly sizes room) (events : List Event) :
    (lending.run events).Orderly sizes room := by
  induction events generalizing lending with
  | nil => exact orderly
  | cons event rest ih => exact ih (orderly.act event)

/-- Giving a loan back: it goes to the class that it was asked of, or is dropped when that is full.
One that was asked of none is dropped. -/
def Returns (lending : Lending) (room : Nat) (loan : Loan) : Prop :=
  match loan.origin with
  | none => lending.pool.release loan.buffer = lending.pool
  | some place => ∃ sizeClass, lending.pool.classes[place]? = some sizeClass ∧
      lending.pool.release loan.buffer =
        if sizeClass.idle.length < room then
          { lending.pool with
            classes := lending.pool.classes.set place
              { sizeClass with idle := loan.buffer :: sizeClass.idle } }
        else lending.pool

theorem Orderly.returns (orderly : lending.Orderly sizes room) {loan : Loan}
    (member : loan ∈ lending.loans) : lending.Returns room loan := by
  have belongs := orderly.belongs loan member
  simp only [Loan.Belongs] at belongs
  simp only [Returns]
  split at belongs
  · exact orderly.stocked.release_of_none belongs
  · obtain ⟨size, named, home⟩ := belongs
    rw [orderly.stocked.getElem?_sizes] at named
    obtain ⟨sizeClass, there, rfl⟩ := Option.map_eq_some_iff.mp named
    exact ⟨sizeClass, there, orderly.stocked.release_of_some there home⟩

/-- Pools can be made if their buffers can be had. Whatever is then lent, written, dropped and given
back, each class keeps buffers of its own bracket and no more than there is room for, requests are
supplied from the smallest class that is large enough, and loans return to the class they were asked
of. -/
theorem loans_return_to_their_class {settings : PoolSettings}
    (valid : settings.validate = .ok ()) (unsaturated : settings.Unsaturated)
    (events : List Event) :
    (¬ Pool.Affordable settings → Pool.create settings = .error .capacityOverflow) ∧
    (Pool.Affordable settings → ∃ pool, Pool.create settings = .ok (.ok pool) ∧
      let sizes := (List.range settings.pools).map fun place =>
        settings.firstSize * settings.multiple ^ place
      let lending := ({ pool } : Lending).run events
      lending.pool.sizes = sizes ∧
        (∀ (place : Nat) (sizeClass : SizeClass), lending.pool.classes[place]? = some sizeClass →
          sizeClass.idle.length ≤ settings.buffers ∧
            ∀ buffer ∈ sizeClass.idle,
              Pool.Bracket sizes place sizeClass.size buffer.capacity) ∧
        (∀ length, lending.pool.Supplies length) ∧
        ∀ loan ∈ lending.loans, lending.Returns settings.buffers loan) := by
  refine ⟨fun short => by simp only [Pool.create, valid, if_neg short], fun affordable => ?_⟩
  obtain ⟨pool, created⟩ : ∃ pool, Pool.create settings = .ok (.ok pool) :=
    ⟨_, by simp only [Pool.create, valid, if_pos affordable]; rfl⟩
  refine ⟨pool, created, ?_⟩
  obtain ⟨-, -, grows⟩ := PoolSettings.validate_eq_ok valid
  obtain ⟨-, stocked, -⟩ := Pool.create_stocked created unsaturated
  rw [Pool.sizesOf, Pool.growingSizes_eq (by omega) unsaturated] at stocked
  intro sizes lending
  have start : ({ pool } : Lending).Orderly sizes settings.buffers := ⟨stocked, by simp⟩
  have orderly : lending.Orderly sizes settings.buffers := start.run events
  refine ⟨orderly.stocked.sized, ?_, orderly.stocked.supplies, fun loan => orderly.returns⟩
  intro place sizeClass there
  have held := List.mem_of_getElem? there
  have named : sizes[place]? = some sizeClass.size := by
    rw [orderly.stocked.getElem?_sizes, there]
    rfl
  refine ⟨orderly.stocked.bounded sizeClass held, ?_⟩
  intro buffer kept
  exact Pool.bracket_of_shelf? orderly.stocked.ascending
    (orderly.stocked.shelved sizeClass held buffer kept) named

/-- A class of two buffers is emptied; a foreign buffer with a capacity between two classes comes in
before the loans are back. -/
theorem loans_return_to_their_class_crowded :
    ∃ pool, Pool.create ⟨3, 2, 64, 4⟩ = .ok (.ok pool) ∧
      let lending := ({ pool } : Lending).run [.acquire 100, .overwrite 0 [7, 7], .acquire 256,
        .releaseForeign ⟨300, []⟩, .release 1, .acquire 5000, .drop 0, .acquire 65]
      lending.pool.sizes = [64, 256, 1024] ∧ (∀ length, lending.pool.Supplies length) ∧
        lending.loans.map Loan.origin = [some 1, some 1] ∧
        ∀ loan ∈ lending.loans, lending.Returns 2 loan := by
  have unsaturated : (⟨3, 2, 64, 4⟩ : PoolSettings).Unsaturated := by
    unfold PoolSettings.Unsaturated
    decide
  obtain ⟨-, affords⟩ :=
    @loans_return_to_their_class ⟨3, 2, 64, 4⟩ rfl unsaturated [.acquire 100, .overwrite 0 [7, 7],
      .acquire 256, .releaseForeign ⟨300, []⟩, .release 1, .acquire 5000, .drop 0, .acquire 65]
  obtain ⟨pool, created, sized, -, supplies, returns⟩ := affords (by decide)
  refine ⟨pool, created, sized, supplies, ?_, returns⟩
  obtain rfl := Except.ok.inj (Except.ok.inj created)
  rfl

end Lending

end KeyDepot
