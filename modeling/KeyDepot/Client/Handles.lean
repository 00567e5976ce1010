import KeyDepot.Bytes

namespace KeyDepot

/-- A handle on a provider of the remote side. -/
structure Handle where
  id : Nat
  target : UInt8
  deriving DecidableEq, Repr, Inhabited

structure Handles where
  /-- The number of the next handle. -/
  next : Nat := 0
  /-- The references that are held. -/
  references : List (String × Handle) := []
  deriving DecidableEq, Repr, Inhabited

namespace Handles

/-- The handle a reference refers to. -/
def find? (name : String) (handles : Handles) : Option Handle :=
  handles.references.lookup name

/-- The number of references to a handle. -/
def count (handle : Handle) (handles : Handles) : Nat :=
  (handles.references.filter fun reference => reference.2.id == handle.id).length

/-- The number of handles that live. -/
def live (handles : Handles) : Nat :=
  (handles.references.map fun reference => reference.2.id).eraseDups.length

/-- Gives up a reference. -/
def release (name : String) (handles : Handles) : Handles :=
  { handles with references := handles.references.filter fun reference => reference.1 != name }

/-- Holds a reference under a name, in place of the one held there before. -/
def keep (name : String) (handle : Handle) (handles : Handles) : Handles :=
  let handles := handles.release name
  { handles with references := (name, handle) :: handles.references }

/-- A new handle on a provider, held under a name. -/
def acquire (name : String) (target : UInt8) (handles : Handles) : Handle × Handles :=
  let handle : Handle := { id := handles.next, target }
  (handle, { handles with next := handles.next + 1 }.keep name handle)

end Handles

end KeyDepot
