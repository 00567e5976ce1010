import KeyDepot.Bytes
import KeyDepot.Net.SocketAddress

/-!
Finding the address behind `host:port` without a name server. Where a text is no socket address, its
host may still be numeric in a looser notation: an IPv4 address in up to four parts of any base, or
an IPv6 address without brackets.
-/

namespace KeyDepot.Net

/-- A number of at most 32 bits: hexadecimal after `0x`, octal after `0`, decimal otherwise. -/
def readPart : Reader Nat := fun text =>
  let limit := UInt32.size - 1
  let hexadecimal (digits : List Char) : Option (Nat × List Char) :=
    Reader.number 16 Text.hexDigit? none true limit digits
  let octal := Reader.number 8 Text.octalDigit? none true limit
  match text with
  | '0' :: 'x' :: digits => hexadecimal digits <|> octal text
  | '0' :: 'X' :: digits => hexadecimal digits <|> octal text
  | '0' :: _ => octal text
  | _ => Reader.decimal none true limit text

/-- The octets of up to `room` numbers with dots between. The last number fills all octets that the
others leave. -/
def readParts : Nat → Reader (List UInt8)
  | 0, _ => none
  | room + 1, text => do
    let (part, rest) ← readPart text
    match rest with
    | '.' :: rest =>
      if part < 256 then
        let (octets, rest) ← readParts room rest
        some (UInt8.ofNat part :: octets, rest)
      else none
    | _ => if part < Nat.pow 256 (room + 1) then some (Bytes.big (room + 1) part, rest) else none

/-- Whether an IPv6 address is meant for one link only, of which a machine may have several. -/
def isLinkLocal : List UInt16 → Bool
  | first :: _ => first &&& 0xFFC0 == 0xFE80 || first &&& 0xFF0F == 0xFF02
  | [] => false

/-- The number of a zone. On a link the zone may be the name of an interface, and the loopback is
the one interface every machine has, with the number 1. -/
def zone? (groups : List UInt16) (zone : List Char) : Option UInt32 :=
  if isLinkLocal groups && zone == "lo".toList then some 1
  else match Reader.decimal none true (UInt32.size - 1) zone with
    | some (number, []) => some (UInt32.ofNat number)
    | _ => none

/-- Why a text names no address that can be connected to. -/
inductive LookupFault where
  | noPort
  | badPort
  | nulInHost
  /-- A host that no name server needs to be asked about, because nothing can have it. -/
  | noSuchHost
  /-- A host name, and no name server to ask. -/
  | noNameServer
  deriving DecidableEq, Repr, Inhabited

def LookupFault.message : LookupFault → String
  | noPort => "invalid socket address"
  | badPort => "invalid port value"
  | nulInHost => "file name contained an unexpected NUL byte"
  | noSuchHost => "failed to lookup address information: Name or service not known"
  | noNameServer => "failed to lookup address information: Temporary failure in name resolution"

/-- The address a numeric host stands for. An unknown zone is on no machine, and an asterisk alone
stands for any host and so for none. -/
def Host.ofText (text : List Char) : Except LookupFault Host :=
  match readParts 4 text with
  | some (octets, []) => .ok (.v4 octets)
  | _ =>
    match readV6 (text.takeWhile (· ≠ '%')), text.dropWhile (· ≠ '%') with
    | some (groups, []), [] => .ok (.v6 groups 0)
    | some (groups, []), _ :: zone =>
      match zone? groups zone with
      | some scope => .ok (.v6 groups scope)
      | none => .error .noSuchHost
    | _, _ => .error (if text = ['*'] then .noSuchHost else .noNameServer)

/-- Resolves `host:port`, where the last colon ends the host. Names are not looked up. -/
def SocketAddress.lookup (text : String) : Except LookupFault SocketAddress :=
  match SocketAddress.ofText? text with
  | some address => .ok address
  | none =>
    let backwards := text.toList.reverse
    let port := (backwards.takeWhile (· ≠ ':')).reverse
    let host := (backwards.drop (port.length + 1)).reverse
    if port.length = text.length then .error .noPort
    else match Text.natural? 65535 port with
      | none => .error .badPort
      | some port =>
        if host.contains '\x00' then .error .nulInHost
        else (Host.ofText host).map fun host => ⟨host, UInt16.ofNat port⟩

end KeyDepot.Net
