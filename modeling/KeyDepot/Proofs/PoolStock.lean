import KeyDepot.Bulk.Pool
import Mathlib.Algebra.Order.Ring.Nat
import Mathlib.Data.List.Basic

/-! Pools and the buffers that are out. A buffer goes back to the class it was taken from, so a
class lacks no more buffers than are out of it, and is full when all have come back. -/

namespace KeyDepot

namespace PoolSettings

/-- No class size goes beyond 64 bits. -/
def Unsaturated (settings : PoolSettings) : Prop :=
  settings.firstSize * settings.multiple ^ (settings.pools - 1) ≤ Text.maxWord

theorem validate_eq_ok {settings : PoolSettings} (valid : settings.validate = .ok ()) :
    0 < settings.pools ∧ 0 < settings.firstSize ∧ 2 ≤ settings.multiple := by
  simp only [validate] at valid
  split at valid
  · cases valid
  · split at valid
    · cases valid
    · omega

end PoolSettings

namespace Pool

theorem growingSizes_eq {multiple count size : Nat} (positive : 0 < multiple)
    (small : size * multiple ^ (count - 1) ≤ Text.maxWord) :
    growingSizes multiple count size =
      (List.range count).map fun index => size * multiple ^ index := by
  induction count generalizing size with
  | zero => rfl
  | succ count ih =>
    rw [growingSizes, List.range_succ_eq_map, List.map_cons, List.map_map, Nat.pow_zero,
      Nat.mul_one]
    congr 1
    cases count with
    | zero => rfl
    | succ count =>
      have next : size * multiple * multiple ^ count ≤ Text.maxWord := by
        rwa [Nat.add_sub_cancel, Nat.pow_succ', ← Nat.mul_assoc] at small
      have within : size * multiple ≤ Text.maxWord :=
        Nat.le_trans (Nat.le_mul_of_pos_right _ (Nat.pow_pos positive)) next
      rw [Nat.min_eq_left within, ih next]
      apply List.map_congr_left
      intro index _
      simp only [Function.comp_apply, Nat.succ_eq_add_one]
      rw [Nat.pow_succ', Nat.mul_assoc]

theorem length_growingSizes (multiple count size : Nat) :
    (growingSizes multiple count size).length = count := by
  induction count generalizing size with
  | zero => rfl
  | succ count ih => rw [growingSizes, List.length_cons, ih]

theorem growingSizes_ascending {multiple count size : Nat} (positive : 0 < size)
    (grows : 2 ≤ multiple) (small : size * multiple ^ (count - 1) ≤ Text.maxWord) :
    (growingSizes multiple count size).Pairwise (· < ·) := by
  rw [growingSizes_eq (by omega) small, List.pairwise_map]
  refine List.pairwise_lt_range.imp ?_
  intro index other before
  exact Nat.mul_lt_mul_of_pos_left (Nat.pow_lt_pow_right (by omega) before) positive

/-- The last of the sizes that a buffer of this capacity is large enough for. -/
def fitting? (capacity : Nat) (sizes : List Nat) : Option Nat :=
  (sizes.filter fun size => decide (size ≤ capacity)).getLast?

theorem fitting?_cons (capacity size : Nat) (sizes : List Nat) :
    fitting? capacity (size :: sizes) =
      (fitting? capacity sizes).or (if size ≤ capacity then some size else none) := by
  rw [fitting?, List.filter_cons, fitting?]
  by_cases enough : size ≤ capacity
  · simp only [enough, decide_true, if_true, List.getLast?_cons]
    cases (sizes.filter fun size => decide (size ≤ capacity)).getLast? <;> rfl
  · simp [enough]

theorem mem_of_fitting? {capacity size : Nat} {sizes : List Nat}
    (found : fitting? capacity sizes = some size) : size ∈ sizes ∧ size ≤ capacity := by
  obtain ⟨member, enough⟩ := List.mem_filter.mp (List.mem_of_getLast? found)
  exact ⟨member, of_decide_eq_true enough⟩

theorem fitting?_eq_none_iff {capacity : Nat} {sizes : List Nat} :
    fitting? capacity sizes = none ↔ ∀ size ∈ sizes, capacity < size := by
  simp [fitting?]

/-- The size of the class that a buffer of this capacity goes back to. One that is larger than all
classes goes back to none. -/
def shelf? (sizes : List Nat) (capacity : Nat) : Option Nat :=
  if sizes.getLast?.getD 0 < capacity then none else fitting? capacity sizes

theorem shelf?_size {sizes : List Nat} (ascending : sizes.Pairwise (· < ·)) {size : Nat}
    (member : size ∈ sizes) : shelf? sizes size = some size := by
  have fits : fitting? size sizes = some size := by
    induction sizes with
    | nil => cases member
    | cons first rest ih =>
      obtain ⟨above, others⟩ := List.pairwise_cons.mp ascending
      rw [fitting?_cons]
      rcases List.mem_cons.mp member with rfl | later
      · rw [fitting?_eq_none_iff.mpr above]
        simp
      · rw [ih others later]
        rfl
  have within : ¬ sizes.getLast?.getD 0 < size := by
    rcases List.eq_nil_or_concat sizes with rfl | ⟨front, greatest, rfl⟩
    · cases member
    · rw [List.concat_eq_append] at ascending member ⊢
      have most := (List.pairwise_append.mp ascending).2.2
      have bounded : size ≤ greatest := by
        rcases List.mem_append.mp member with lower | last
        · exact Nat.le_of_lt (most size lower greatest List.mem_cons_self)
        · exact Nat.le_of_eq (List.mem_singleton.mp last)
      simpa using bounded
  rw [shelf?, if_neg within, fits]

variable {classes : List SizeClass} {length : Nat}

/-- A request takes from the first class that is large enough, and no other class changes. -/
theorem acquireFrom_eq (ascending : (classes.map SizeClass.size).Pairwise (· < ·)) (length : Nat) :
    acquireFrom length classes =
      match classes.find? fun sizeClass => decide (length ≤ sizeClass.size) with
      | none => (⟨length, []⟩, classes)
      | some chosen =>
        (chosen.idle.headD ⟨chosen.size, []⟩, classes.map fun other =>
          if other.size = chosen.size then { other with idle := other.idle.tail } else other) := by
  induction classes with
  | nil => rfl
  | cons first rest ih =>
    obtain ⟨above, others⟩ := List.pairwise_cons.mp ascending
    have apart : ∀ other ∈ rest, first.size < other.size := fun other member =>
      above other.size (List.mem_map_of_mem member)
    by_cases enough : length ≤ first.size
    · have kept : (rest.map fun other =>
          if other.size = first.size then { other with idle := other.idle.tail } else other) =
            rest := by
        refine (List.map_congr_left fun other member => ?_).trans (List.map_id rest)
        rw [if_neg (Nat.ne_of_gt (apart other member)), id_eq]
      simp only [acquireFrom, enough, if_true, List.find?_cons, decide_true, List.map_cons, kept]
      obtain ⟨size, idle⟩ := first
      cases idle <;> rfl
    · simp only [acquireFrom, enough, if_false, List.find?_cons, decide_false, ih others]
      cases found : rest.find? fun sizeClass => decide (length ≤ sizeClass.size) with
      | none => rfl
      | some chosen =>
        have below := apart chosen (List.mem_of_find?_eq_some found)
        simp [Nat.ne_of_lt below]

/-- A buffer goes back to the last class it is large enough for while that has room, and no other
class changes. -/
theorem releaseInto_eq (ascending : (classes.map SizeClass.size).Pairwise (· < ·)) (room : Nat)
    (buffer : Buffer) :
    releaseInto room buffer classes = classes.map fun sizeClass =>
      if fitting? buffer.capacity (classes.map SizeClass.size) = some sizeClass.size ∧
          sizeClass.idle.length < room then
        { sizeClass with idle := buffer :: sizeClass.idle }
      else sizeClass := by
  induction classes with
  | nil => rfl
  | cons first rest ih =>
    obtain ⟨above, others⟩ := List.pairwise_cons.mp ascending
    rw [releaseInto, List.map_cons, List.map_cons, fitting?_cons]
    cases found : fitting? buffer.capacity (rest.map SizeClass.size) with
    | some size =>
      obtain ⟨member, enough⟩ := mem_of_fitting? found
      obtain ⟨larger, held, rfl⟩ := List.mem_map.mp member
      have deeper : (rest.any fun larger => decide (larger.size ≤ buffer.capacity)) = true :=
        List.any_eq_true.mpr ⟨larger, held, decide_eq_true enough⟩
      rw [if_pos deeper, ih others, found, Option.some_or, if_neg]
      rintro ⟨same, -⟩
      exact Nat.ne_of_gt (above _ member) (Option.some.inj same)
    | none =>
      have small := fitting?_eq_none_iff.mp found
      have last : ¬ (rest.any fun larger => decide (larger.size ≤ buffer.capacity)) = true := by
        simpa using small
      have kept : (rest.map fun other =>
          if (if first.size ≤ buffer.capacity then some first.size else none) = some other.size ∧
            other.idle.length < room then { other with idle := buffer :: other.idle } else other) =
            rest := by
        refine (List.map_congr_left fun other member => ?_).trans (List.map_id rest)
        have apart := Nat.ne_of_lt (above _ (List.mem_map_of_mem member))
        rw [if_neg (by split <;> simp [apart]), id_eq]
      rw [if_neg last, Option.none_or, kept]
      by_cases enough : first.size ≤ buffer.capacity
      · simp only [enough, if_true, true_and]
        split <;> rfl
      · simp [enough]

/-- Pools with classes of these sizes. None keeps more buffers than there is room for, and those it
keeps belong to it. -/
structure Stocked (sizes : List Nat) (room : Nat) (pool : Pool) : Prop where
  ascending : sizes.Pairwise (· < ·)
  sized : pool.sizes = sizes
  roomy : pool.room = room
  shelved : ∀ sizeClass ∈ pool.classes, ∀ buffer ∈ sizeClass.idle,
    shelf? sizes buffer.capacity = some sizeClass.size
  bounded : ∀ sizeClass ∈ pool.classes, sizeClass.idle.length ≤ room

/-- What a class lacks is out: `out` holds the capacities of the buffers that are. -/
def Covers (sizes : List Nat) (room : Nat) (out : List Nat) (pool : Pool) : Prop :=
  ∀ sizeClass ∈ pool.classes, room ≤ sizeClass.idle.length +
    out.countP fun capacity => shelf? sizes capacity == some sizeClass.size

variable {sizes out : List Nat} {room : Nat} {pool : Pool}

theorem Stocked.sorted (stocked : pool.Stocked sizes room) :
    (pool.classes.map SizeClass.size).Pairwise (· < ·) := by
  rw [← Pool.sizes, stocked.sized]
  exact stocked.ascending

theorem Stocked.getElem?_sizes (stocked : pool.Stocked sizes room) (place : Nat) :
    sizes[place]? = pool.classes[place]?.map SizeClass.size := by
  rw [← stocked.sized, Pool.sizes, List.getElem?_map]

theorem Covers.perm (covers : pool.Covers sizes room out) {other : List Nat}
    (same : out.Perm other) : pool.Covers sizes room other := by
  intro sizeClass member
  rw [← same.countP_eq]
  exact covers sizeClass member

theorem Stocked.map (stocked : pool.Stocked sizes room) {change : SizeClass → SizeClass}
    (same : ∀ sizeClass, (change sizeClass).size = sizeClass.size)
    (shelved : ∀ sizeClass ∈ pool.classes, ∀ buffer ∈ (change sizeClass).idle,
      shelf? sizes buffer.capacity = some sizeClass.size)
    (bounded : ∀ sizeClass ∈ pool.classes, (change sizeClass).idle.length ≤ room) :
    ({ pool with classes := pool.classes.map change } : Pool).Stocked sizes room where
  ascending := stocked.ascending
  sized := by
    rw [← stocked.sized, Pool.sizes, Pool.sizes, List.map_map]
    exact List.map_congr_left fun sizeClass _ => same sizeClass
  roomy := stocked.roomy
  shelved := by
    intro changed member
    obtain ⟨sizeClass, held, rfl⟩ := List.mem_map.mp member
    rw [same]
    exact shelved sizeClass held
  bounded := by
    intro changed member
    obtain ⟨sizeClass, held, rfl⟩ := List.mem_map.mp member
    exact bounded sizeClass held

theorem Stocked.shelf?_headD (stocked : pool.Stocked sizes room) {sizeClass : SizeClass}
    (held : sizeClass ∈ pool.classes) :
    shelf? sizes (sizeClass.idle.headD ⟨sizeClass.size, []⟩).capacity = some sizeClass.size := by
  cases idle : sizeClass.idle with
  | nil => exact shelf?_size stocked.ascending (stocked.sized ▸ List.mem_map_of_mem held)
  | cons buffer rest => exact stocked.shelved sizeClass held buffer (by simp [idle])

theorem Stocked.acquire (stocked : pool.Stocked sizes room) {length : Nat} {buffer : Buffer}
    {after : Pool} (acquired : pool.acquire length = .ok (buffer, after)) (out : List Nat) :
    after.Stocked sizes room ∧
      (pool.Covers sizes room out → after.Covers sizes room (buffer.capacity :: out)) := by
  obtain ⟨-, rfl, rfl⟩ := acquire_eq_ok acquired
  simp only [acquireFrom_eq stocked.sorted]
  cases found : pool.classes.find? fun sizeClass => decide (length ≤ sizeClass.size) with
  | none =>
    refine ⟨stocked, fun covers sizeClass member => ?_⟩
    have lacking := covers sizeClass member
    simp only [List.countP_cons]
    omega
  | some chosen =>
    have held := List.mem_of_find?_eq_some found
    constructor
    · apply stocked.map
      · intro sizeClass
        split <;> rfl
      · intro sizeClass member buffer kept
        split at kept
        · exact stocked.shelved sizeClass member buffer (List.mem_of_mem_tail kept)
        · exact stocked.shelved sizeClass member buffer kept
      · intro sizeClass member
        have bound := stocked.bounded sizeClass member
        split
        · simp only [List.length_tail]
          omega
        · exact bound
    · have taken := stocked.shelf?_headD held
      intro covers changed member
      obtain ⟨sizeClass, kept, rfl⟩ := List.mem_map.mp member
      have lacking := covers sizeClass kept
      simp only [List.countP_cons, taken]
      by_cases same : sizeClass.size = chosen.size
      · simp only [same, if_true, beq_self_eq_true, List.length_tail] at lacking ⊢
        omega
      · simp only [same, if_false]
        omega

/-- A buffer goes back to the class of its size while that has room, and no other class changes. -/
theorem Stocked.release_eq (stocked : pool.Stocked sizes room) (buffer : Buffer) :
    pool.release buffer = { pool with
      classes := pool.classes.map fun sizeClass =>
        if shelf? sizes buffer.capacity = some sizeClass.size ∧ sizeClass.idle.length < room then
          { sizeClass with idle := buffer :: sizeClass.idle }
        else sizeClass } := by
  have listed : pool.classes.map SizeClass.size = sizes := stocked.sized
  have largest : pool.largest = sizes.getLast?.getD 0 := by
    rw [← stocked.sized, Pool.largest, Pool.sizes, List.getLast?_map]
  rw [Pool.release, largest]
  by_cases oversize : sizes.getLast?.getD 0 < buffer.capacity
  · have homeless : shelf? sizes buffer.capacity = none := if_pos oversize
    simp [oversize, homeless]
  · have home : shelf? sizes buffer.capacity = fitting? buffer.capacity sizes := if_neg oversize
    rw [if_neg oversize, releaseInto_eq stocked.sorted, listed, ← home, stocked.roomy]

theorem Stocked.release (stocked : pool.Stocked sizes room) (buffer : Buffer) (out : List Nat) :
    (pool.release buffer).Stocked sizes room ∧
      (pool.Covers sizes room (buffer.capacity :: out) →
        (pool.release buffer).Covers sizes room out) := by
  rw [stocked.release_eq]
  constructor
  · apply stocked.map
    · intro sizeClass
      split <;> rfl
    · intro sizeClass member other kept
      split at kept
      · rename_i belongs
        rcases List.mem_cons.mp kept with rfl | old
        · exact belongs.1
        · exact stocked.shelved sizeClass member other old
      · exact stocked.shelved sizeClass member other kept
    · intro sizeClass member
      split
      · rename_i belongs
        exact belongs.2
      · exact stocked.bounded sizeClass member
  · intro covers changed member
    obtain ⟨sizeClass, kept, rfl⟩ := List.mem_map.mp member
    have lacking := covers sizeClass kept
    rw [List.countP_cons] at lacking
    by_cases belongs : shelf? sizes buffer.capacity = some sizeClass.size
    · simp only [belongs, beq_self_eq_true, if_true, true_and] at lacking ⊢
      split
      · simp only [List.length_cons]
        omega
      · omega
    · simp only [belongs, beq_iff_eq, if_false, false_and] at lacking ⊢
      exact lacking

theorem Stocked.full (stocked : pool.Stocked sizes room) (covers : pool.Covers sizes room []) :
    ∀ sizeClass ∈ pool.classes, sizeClass.idle.length = room := by
  intro sizeClass member
  have lacking := covers sizeClass member
  rw [List.countP_nil, Nat.add_zero] at lacking
  exact Nat.le_antisymm (stocked.bounded sizeClass member) lacking

theorem idle_of_full (full : ∀ sizeClass ∈ pool.classes, sizeClass.idle.length = room) :
    pool.idle = pool.classes.length * room := by
  have same : pool.classes.map (fun sizeClass => sizeClass.idle.length) =
      List.replicate pool.classes.length room :=
    List.eq_replicate_iff.mpr ⟨List.length_map _, by simpa using full⟩
  rw [Pool.idle, same]
  exact List.sum_replicate_nat

theorem create_stocked {settings : PoolSettings}
    (created : Pool.create settings = .ok (.ok pool)) (unsaturated : settings.Unsaturated) :
    let sizes := sizesOf settings
    sizes.length = settings.pools ∧ pool.Stocked sizes settings.buffers ∧
      pool.Covers sizes settings.buffers [] := by
  intro sizes
  cases valid : settings.validate with
  | error error => simp [Pool.create, valid] at created
  | ok _ =>
    obtain ⟨-, positive, grows⟩ := PoolSettings.validate_eq_ok valid
    have ascending : sizes.Pairwise (· < ·) := growingSizes_ascending positive grows unsaturated
    simp only [Pool.create, valid] at created
    split at created
    case isFalse => cases created
    obtain rfl := Except.ok.inj (Except.ok.inj created)
    refine ⟨length_growingSizes .., ⟨ascending, ?_, rfl, ?_, ?_⟩, ?_⟩
    · exact (List.map_map).trans (List.map_id sizes)
    · intro sizeClass member buffer kept
      obtain ⟨size, listed, rfl⟩ := List.mem_map.mp member
      obtain rfl := List.eq_of_mem_replicate kept
      exact shelf?_size ascending listed
    · intro sizeClass member
      obtain ⟨size, -, rfl⟩ := List.mem_map.mp member
      exact Nat.le_of_eq List.length_replicate
    · intro sizeClass member
      obtain ⟨size, -, rfl⟩ := List.mem_map.mp member
      exact Nat.le_of_eq (List.length_replicate).symm

end Pool

end KeyDepot
