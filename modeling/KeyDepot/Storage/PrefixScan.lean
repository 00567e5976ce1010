import KeyDepot.Bytes

namespace KeyDepot

/-- What becomes of a key. -/
inductive Verdict where
  | take
  | skip
  | stop
  deriving DecidableEq, Repr, Inhabited

/-- A scan for keys that begin with `stem`, of which `remaining` more may be listed. -/
structure PrefixScan where
  stem : Bytes
  remaining : Nat
  deriving DecidableEq, Repr, Inhabited

namespace PrefixScan

/-- Whether the scan can still list keys. -/
def isOpen (scan : PrefixScan) : Bool :=
  decide (0 < scan.remaining)

/-- Judges the next key. A key shorter than the stem is passed over; the bytes of a longer one that
face the stem decide, and once they come after it bytewise the scan ends. -/
def step (scan : PrefixScan) (key : Bytes) : Verdict × PrefixScan :=
  if scan.remaining = 0 then (.stop, scan)
  else if key.length < scan.stem.length then (.skip, scan)
  else match Bytes.order scan.stem (key.take scan.stem.length) with
    | .eq => (.take, { scan with remaining := scan.remaining - 1 })
    | .lt => (.stop, scan)
    | .gt => (.skip, scan)

/-- The items of a list whose keys the scan takes before it stops. -/
def select {α : Type} (key : α → Bytes) : PrefixScan → List α → List α
  | _, [] => []
  | scan, item :: rest =>
    match scan.step (key item) with
    | (.take, scan) => item :: select key scan rest
    | (.skip, scan) => select key scan rest
    | (.stop, _) => []

end PrefixScan

end KeyDepot
