import KeyDepot.Text.Natural
import KeyDepot.Text.Quoted

/-!
Socket addresses: a numeric host with a port, read from and written as text. IPv6 hosts are
written in the shortest form: the longest run of zero groups, when it has more than one, becomes
`::`, and an address that maps an IPv4 address shows it.
-/

namespace KeyDepot.Net

inductive Host where
  | v4 (octets : List UInt8)
  | v6 (groups : List UInt16) (scope : UInt32)
  deriving DecidableEq, Repr, Inhabited

structure SocketAddress where
  host : Host
  port : UInt16
  deriving DecidableEq, Repr, Inhabited

/-- Reads a piece from the front of a text, and gives back the rest. -/
abbrev Reader (α : Type) := List Char → Option (α × List Char)

namespace Reader

/-- Exactly this character. -/
def char (c : Char) : Reader Unit
  | first :: rest => if first = c then some ((), rest) else none
  | [] => none

/-- All digits at the front, as a number of at most `limit`. With `widest`, more digits than that
are refused; without `padded`, so is a leading zero. -/
def number (base : Nat) (digit? : Char → Option Nat) (widest : Option Nat) (padded : Bool)
    (limit : Nat) : Reader Nat := fun text =>
  let digits := text.takeWhile fun c => (digit? c).isSome
  let tooWide := match widest with
    | some widest => decide (widest < digits.length)
    | none => false
  let leadingZero := digits.head? == some '0' && decide (1 < digits.length)
  if tooWide || (leadingZero && !padded) then none
  else match Text.digits? base digit? digits with
    | some value => if value ≤ limit then some (value, text.drop digits.length) else none
    | none => none

def decimal (widest : Option Nat) (padded : Bool) (limit : Nat) : Reader Nat :=
  number 10 Text.decimalDigit? widest padded limit

end Reader

/-- Four octets with dots between, each without leading zeros. -/
def readOctets : Reader (List UInt8) := fun text => do
  let octet := Reader.decimal (some 3) false 255
  let dot := Reader.char '.'
  let (a, text) ← octet text
  let ((), text) ← dot text
  let (b, text) ← octet text
  let ((), text) ← dot text
  let (c, text) ← octet text
  let ((), text) ← dot text
  let (d, text) ← octet text
  some ([a, b, c, d].map UInt8.ofNat, text)

/-- The two groups that four octets fill. -/
def groupsOfOctets : List UInt8 → List UInt16
  | [a, b, c, d] =>
    [UInt16.ofNat (256 * a.toNat + b.toNat), UInt16.ofNat (256 * c.toNat + d.toNat)]
  | _ => []

/-- Whether what was read so far is separated from what follows by a colon; the first piece needs
none. -/
private def separator (first : Bool) (text : List Char) : Option (List Char) :=
  if first then some text else (Reader.char ':' text).map Prod.snd

/-- Up to `room` groups with colons between, and whether the last two came from octets. What is no
group is left unread, its colon too. -/
def readGroups (first : Bool) : Nat → List Char → List UInt16 × Bool × List Char
  | 0, text => ([], false, text)
  | room + 1, text =>
    match separator first text with
    | none => ([], false, text)
    | some inner =>
      let octets := if 0 < room then readOctets inner else none
      match octets with
      | some (octets, rest) => (groupsOfOctets octets, true, rest)
      | none =>
        match Reader.number 16 Text.hexDigit? (some 4) true 65535 inner with
        | none => ([], false, text)
        | some (group, rest) =>
          let (groups, fromOctets, rest) := readGroups false room rest
          (UInt16.ofNat group :: groups, fromOctets, rest)

/-- Eight groups, or fewer with one `::` standing for at least one zero group. -/
def readV6 : Reader (List UInt16) := fun text => do
  let (head, fromOctets, text) := readGroups true 8 text
  if head.length = 8 then some (head, text)
  else if fromOctets then none
  else
    let ((), text) ← Reader.char ':' text
    let ((), text) ← Reader.char ':' text
    let (tail, _, text) := readGroups true (8 - (head.length + 1)) text
    let gap := List.replicate (8 - head.length - tail.length) 0
    some (head ++ gap ++ tail, text)

def readPort : Reader UInt16 := fun text => do
  let ((), text) ← Reader.char ':' text
  let (port, text) ← Reader.decimal none true 65535 text
  some (UInt16.ofNat port, text)

/-- The number of a scope after a percent sign; zero when there is none. -/
def readScope (text : List Char) : UInt32 × List Char :=
  let numbered := do
    let ((), text) ← Reader.char '%' text
    Reader.decimal none true (UInt32.size - 1) text
  match numbered with
  | some (scope, rest) => (UInt32.ofNat scope, rest)
  | none => (0, text)

def readV4Address : Reader SocketAddress := fun text => do
  let (octets, text) ← readOctets text
  let (port, text) ← readPort text
  some (⟨.v4 octets, port⟩, text)

def readV6Address : Reader SocketAddress := fun text => do
  let ((), text) ← Reader.char '[' text
  let (groups, text) ← readV6 text
  let (scope, text) := readScope text
  let ((), text) ← Reader.char ']' text
  let (port, text) ← readPort text
  some (⟨.v6 groups scope, port⟩, text)

/-- The address a whole text spells. -/
def SocketAddress.ofText? (text : String) : Option SocketAddress :=
  let characters := text.toList
  match readV4Address characters <|> readV6Address characters with
  | some (address, []) => some address
  | _ => none

private def octetsText (octets : List UInt8) : String :=
  ".".intercalate (octets.map fun octet => toString octet.toNat)

private def groupsText (groups : List UInt16) : String :=
  ":".intercalate (groups.map fun group => Text.hexDigits group.toNat)

/-- The length of the run of zero groups at the front. -/
private def zeroRun (groups : List UInt16) : Nat :=
  (groups.takeWhile (· == 0)).length

/-- The first longest run of zero groups, as its place and its length. -/
private def longestZeroRun (groups : List UInt16) : Nat × Nat :=
  (List.range groups.length).foldl (fun best place =>
    let run := zeroRun (groups.drop place)
    if best.2 < run then (place, run) else best) (0, 0)

private def v6Text (groups : List UInt16) : String :=
  match groups with
  | [0, 0, 0, 0, 0, 0xFFFF, high, low] =>
    let octets := [high, low].flatMap fun group =>
      [UInt8.ofNat (group.toNat / 256), UInt8.ofNat group.toNat]
    "::ffff:" ++ octetsText octets
  | _ =>
    let (place, run) := longestZeroRun groups
    if 1 < run then
      groupsText (groups.take place) ++ "::" ++ groupsText (groups.drop (place + run))
    else groupsText groups

def SocketAddress.text (address : SocketAddress) : String :=
  let port := toString address.port.toNat
  match address.host with
  | .v4 octets => octetsText octets ++ ":" ++ port
  | .v6 groups scope =>
    let zone := if scope = 0 then "" else "%" ++ toString scope.toNat
    "[" ++ v6Text groups ++ zone ++ "]:" ++ port

end KeyDepot.Net
