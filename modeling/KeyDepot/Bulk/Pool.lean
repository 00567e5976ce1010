import KeyDepot.Settings

namespace KeyDepot

/-- A buffer: its bytes, and the room it was allocated with. -/
structure Buffer where
  capacity : Nat
  bytes : Bytes
  deriving DecidableEq, Repr, Inhabited

namespace Buffer

/-- A buffer just large enough for its bytes. -/
def ofBytes (bytes : Bytes) : Buffer := ⟨bytes.length, bytes⟩

def length (buffer : Buffer) : Nat := buffer.bytes.length

/-- The buffer holding that many zero bytes, whatever it held before. -/
def cleared (length : Nat) (buffer : Buffer) : Except Panic Buffer :=
  (Bytes.allocate length).map fun bytes => { buffer with bytes }

end Buffer

/-- Idle buffers for requests of up to `size` bytes. -/
structure SizeClass where
  size : Nat
  idle : List Buffer
  deriving DecidableEq, Repr, Inhabited

/-- Classes in ascending order of their sizes, each keeping at most `room` idle buffers. -/
structure Pool where
  classes : List SizeClass
  room : Nat
  deriving DecidableEq, Repr, Inhabited

namespace Pool

/-- The sizes of `count` classes from `size` on; a product beyond 64 bits stays at the greatest
number. -/
def growingSizes (multiple : Nat) : (count size : Nat) → List Nat
  | 0, _ => []
  | count + 1, size => size :: growingSizes multiple count (min (size * multiple) Text.maxWord)

/-- The sizes of the classes of a sizing. -/
def sizesOf (settings : PoolSettings) : List Nat :=
  growingSizes settings.multiple settings.pools settings.firstSize

/-- Whether the buffers of a sizing can be had: each of them, and a sequence of all those of a
class. -/
def Affordable (settings : PoolSettings) : Prop :=
  settings.buffers * Bytes.memberSize ≤ Bytes.maxLength ∧
    ∀ size ∈ sizesOf settings, size ≤ Bytes.maxLength

instance (settings : PoolSettings) : Decidable (Affordable settings) :=
  inferInstanceAs (Decidable (_ ∧ _))

/-- Pools with every class full. -/
def create (settings : PoolSettings) : Except Panic (Except Error Pool) :=
  match settings.validate with
  | .error error => .ok (.error error)
  | .ok () =>
    let full (size : Nat) : SizeClass := ⟨size, List.replicate settings.buffers ⟨size, []⟩⟩
    if Affordable settings then
      .ok (.ok { classes := (sizesOf settings).map full, room := settings.buffers })
    else .error .capacityOverflow

/-- Takes a buffer from the first class that is large enough. -/
def acquireFrom (length : Nat) : List SizeClass → Buffer × List SizeClass
  | [] => (⟨length, []⟩, [])
  | sizeClass :: rest =>
    if length ≤ sizeClass.size then
      match sizeClass.idle with
      | buffer :: idle => (buffer, { sizeClass with idle } :: rest)
      | [] => (⟨sizeClass.size, []⟩, sizeClass :: rest)
    else
      let (buffer, rest) := acquireFrom length rest
      (buffer, sizeClass :: rest)

/-- A buffer of that many zero bytes. -/
def acquire (length : Nat) (pool : Pool) : Except Panic (Buffer × Pool) :=
  let (buffer, classes) := acquireFrom length pool.classes
  (buffer.cleared length).map fun buffer => (buffer, { pool with classes })

theorem acquire_of_le (pool : Pool) {length : Nat} (short : length ≤ Bytes.maxLength) :
    pool.acquire length =
      .ok ({ (acquireFrom length pool.classes).1 with bytes := Bytes.zeros length },
        { pool with classes := (acquireFrom length pool.classes).2 }) := by
  simp only [acquire, Buffer.cleared, Bytes.allocate_of_le short, Except.map]

theorem acquire_of_lt (pool : Pool) {length : Nat} (long : Bytes.maxLength < length) :
    pool.acquire length = .error .capacityOverflow := by
  simp only [acquire, Buffer.cleared, Bytes.allocate_of_lt long, Except.map]

theorem acquire_eq_ok {pool after : Pool} {length : Nat} {buffer : Buffer}
    (acquired : pool.acquire length = .ok (buffer, after)) :
    length ≤ Bytes.maxLength ∧
      buffer = { (acquireFrom length pool.classes).1 with bytes := Bytes.zeros length } ∧
      after = { pool with classes := (acquireFrom length pool.classes).2 } := by
  rcases Nat.lt_or_ge Bytes.maxLength length with long | short
  · rw [pool.acquire_of_lt long] at acquired
    cases acquired
  · rw [pool.acquire_of_le short] at acquired
    obtain ⟨rfl, rfl⟩ := Prod.mk.inj (Except.ok.inj acquired)
    exact ⟨short, rfl, rfl⟩

/-- Puts a buffer into the last class it is large enough for, if that has room. -/
def releaseInto (room : Nat) (buffer : Buffer) : List SizeClass → List SizeClass
  | [] => []
  | sizeClass :: rest =>
    if rest.any fun larger => larger.size ≤ buffer.capacity then
      sizeClass :: releaseInto room buffer rest
    else if sizeClass.size ≤ buffer.capacity ∧ sizeClass.idle.length < room then
      { sizeClass with idle := buffer :: sizeClass.idle } :: rest
    else sizeClass :: rest

/-- The size of the largest class. -/
def largest (pool : Pool) : Nat :=
  (pool.classes.getLast?.map SizeClass.size).getD 0

/-- Takes a buffer back, or drops it: one larger than the largest class belongs to none. -/
def release (buffer : Buffer) (pool : Pool) : Pool :=
  if pool.largest < buffer.capacity then pool
  else { pool with classes := releaseInto pool.room buffer pool.classes }

/-- The idle buffers in all classes together. -/
def idle (pool : Pool) : Nat :=
  (pool.classes.map fun sizeClass => sizeClass.idle.length).foldr (· + ·) 0

def sizes (pool : Pool) : List Nat :=
  pool.classes.map SizeClass.size

end Pool

end KeyDepot
