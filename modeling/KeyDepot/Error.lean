import KeyDepot.Message.Frame
import KeyDepot.Net.Lookup
import KeyDepot.Text.Utf8

/-!
Everything that can go wrong, by cause, and the one place where causes are put into words. A missing
key and a refused put are answers and no errors.
-/

namespace KeyDepot

/-- A stream of bytes that fails. -/
inductive StreamFault where
  /-- The stream ended inside a frame, or where one was due. -/
  | earlyEnd
  /-- Nobody takes connections there. -/
  | refused
  /-- No network leads there. -/
  | unreachable
  | told (text : String)
  deriving DecidableEq, Repr, Inhabited

/-- Bytes that are no form of the value to be read. -/
inductive WireFault where
  | endOfInput
  /-- A text longer than what is left. -/
  | textOverrun
  | variant (found count : Nat)
  | optionTag (found : UInt8)
  | badText (fault : Text.Utf8.Fault)
  | told (text : String)
  deriving DecidableEq, Repr, Inhabited

/-- Something asked for that this engine does not do. -/
inductive Unsupported where
  /-- A key order for an engine that has its own. -/
  | keyOrder (name : String)
  | told (text : String)
  deriving DecidableEq, Repr, Inhabited

/-- An argument that cannot be right. -/
inductive Misuse where
  | batchLengths (keys values : Nat)
  | orderOnEntries (order : String) (held : Nat)
  | orderTaken (name : String)
  | orderUnknown (name : String)
  | regionUnknown (region : UInt64)
  | pullForbidden (region : UInt64)
  | pushForbidden (region : UInt64)
  | segmentUnknown (region : UInt64) (index : UInt32)
  | segmentOverflow (length : Nat) (index : UInt32) (capacity : Nat)
  | slotCounts (keys values : Nat)
  | unreadable (region : UInt64)
  | unwritable (region : UInt64)
  | sizesOverflow (region : UInt64) (capacity needed : Nat)
  | told (text : String)
  deriving DecidableEq, Repr, Inhabited

/-- A peer that cannot be reached or does not answer. -/
inductive TransportFault where
  | lookup (address : String) (fault : Net.LookupFault)
  | stream (peer : String) (fault : StreamFault)
  | noReply (peer : String) (milliseconds : Nat)
  | pullDenied (region : UInt64) (reason : String)
  | pushDenied (region : UInt64) (reason : String)
  | segmentSizes (region : UInt64) (delivered promised : List Nat)
  | told (text : String)
  deriving DecidableEq, Repr, Inhabited

/-- Frames that break the rules of the conversation. -/
inductive Violation where
  | unknownKind (byte : UInt8)
  | payloadTooLarge (size : Nat)
  | incompleteHeader (length : Nat)
  | incompletePayload (expected length : Nat)
  | payloadNotEmpty (kind : FrameKind) (size : Nat)
  | outsideCall (kind : FrameKind)
  | dataExpected (kind : FrameKind)
  | ackExpected (kind : FrameKind)
  | unexpectedFrom (kind : FrameKind) (peer : String)
  | replyMismatch (reply : Reply)
  | replyOverrun (claimed capacity : Nat)
  | itemOverrun (index size : Nat)
  | told (text : String)
  deriving DecidableEq, Repr, Inhabited

/-- Settings that describe nothing usable. -/
inductive ConfigFault where
  | backendUnknown (name : String)
  | databaseUnnamed
  | variableMissing (name : String)
  | variableMalformed (name value : String)
  | poolCounts
  | poolSizes (first multiple : Nat)
  | told (text : String)
  deriving DecidableEq, Repr, Inhabited

inductive Error where
  | stream (fault : StreamFault)
  /-- The medium behind a database is lost. -/
  | engine (text : String)
  /-- An earlier engine failure closed the database for good. -/
  | poisoned (db : DatabaseId)
  | databaseExists (name : String)
  | unsupported (cause : Unsupported)
  | invalidArgument (cause : Misuse)
  | serialization (fault : WireFault)
  | transport (fault : TransportFault)
  | protocol (violation : Violation)
  /-- A status of the remote provider, handed on. -/
  | remote (status : Status)
  /-- A value longer than the caller allowed, with its length. -/
  | truncated (size : UInt64)
  | providerExists (id : UInt8)
  | config (fault : ConfigFault)
  deriving DecidableEq, Repr, Inhabited

/-- The greatest payload of a frame, in bytes. -/
def maxPayload : Nat := 64 * 1024 * 1024

/-- The bytes before a payload: the kind of the frame and the length of the payload. -/
def headerSize : Nat := 5

namespace StreamFault

def message : StreamFault → String
  | earlyEnd => "early eof"
  | refused => "Connection refused (os error 111)"
  | unreachable => "Network is unreachable (os error 101)"
  | told text => text

end StreamFault

namespace WireFault

def message : WireFault → String
  | endOfInput => "io error: unexpected end of file"
  | textOverrun => "io error: "
  | variant found count =>
    s!"invalid value: integer `{found}`, expected variant index 0 <= i < {count}"
  | optionTag found => s!"tag for enum is not valid, found {found.toNat}"
  | badText fault => "string is not valid utf8: " ++ fault.message
  | told text => text

end WireFault

namespace Unsupported

def message : Unsupported → String
  | keyOrder name =>
    "sled orders keys bytewise and cannot use comparator " ++ Text.quoted name
  | told text => text

end Unsupported

namespace Misuse

def message : Misuse → String
  | batchLengths keys values => s!"put_multi got {keys} keys but {values} values"
  | orderOnEntries order held =>
    s!"cannot install comparator {Text.quoted order} on a database holding {held} keys"
  | orderTaken name => s!"comparator {Text.quoted name} is already registered"
  | orderUnknown name => s!"no comparator named {Text.quoted name}"
  | regionUnknown region => s!"region {region} is not exposed"
  | pullForbidden region => s!"region {region} does not allow pulls"
  | pushForbidden region => s!"region {region} does not allow pushes"
  | segmentUnknown region index => s!"region {region} has no segment {index}"
  | segmentOverflow length index capacity =>
    s!"write of {length} bytes overflows segment {index} ({capacity} bytes)"
  | slotCounts keys values => s!"{keys} key slots but {values} value slots"
  | unreadable region => s!"region {region} is not readable"
  | unwritable region => s!"region {region} is not writable"
  | sizesOverflow region capacity needed =>
    s!"size region {region} holds {capacity} bytes, {needed} needed"
  | told text => text

end Misuse

/-- A span of time in the largest unit that leaves its whole part above zero, with as many decimals
as it needs. -/
def durationText (milliseconds : Nat) : String :=
  if milliseconds < 1000 then s!"{milliseconds}ms"
  else
    let whole := milliseconds / 1000
    let thousandths := milliseconds % 1000
    if thousandths = 0 then s!"{whole}s"
    else
      let padded := (toString (1000 + thousandths)).toList.drop 1
      let decimals := (padded.reverse.dropWhile (· == '0')).reverse
      s!"{whole}.{String.ofList decimals}s"

namespace TransportFault

def message : TransportFault → String
  | lookup address fault => s!"lookup of {address} failed: {fault.message}"
  | stream peer fault => s!"{peer}: {fault.message}"
  | noReply peer milliseconds => s!"{peer}: no reply within {durationText milliseconds}"
  | pullDenied region reason => s!"pull of region {region} denied: {reason}"
  | pushDenied region reason => s!"push to region {region} denied: {reason}"
  | segmentSizes region delivered promised =>
    s!"region {region} delivered segments {delivered}, descriptor promised {promised}"
  | told text => text

end TransportFault

namespace Violation

/-- The name of a frame kind that carries no payload. -/
private def emptyFrameName : FrameKind → String
  | .bulkAck => "BULK_ACK"
  | _ => "SHUTDOWN"

private def twoDigits (byte : UInt8) : String :=
  let digits := Text.hexDigits byte.toNat
  if digits.length < 2 then "0" ++ digits else digits

def message : Violation → String
  | unknownKind byte => "Unknown frame kind: 0x" ++ twoDigits byte
  | payloadTooLarge size => s!"Payload too large: {size} bytes (max {maxPayload})"
  | incompleteHeader length => s!"Incomplete header: expected {headerSize} bytes, got {length}"
  | incompletePayload expected length =>
    s!"Incomplete payload: expected {expected} bytes, got {length}"
  | payloadNotEmpty kind size =>
    s!"{emptyFrameName kind} frame: unexpected payload of {size} bytes"
  | outsideCall kind => s!"unexpected {kind.name} frame outside of a call"
  | dataExpected kind => s!"expected BULK_DATA, got {kind.name}"
  | ackExpected kind => s!"expected BULK_ACK, got {kind.name}"
  | unexpectedFrom kind peer => s!"unexpected {kind.name} frame from {peer}"
  | replyMismatch reply => "reply does not match the call: " ++ reply.describe
  | replyOverrun claimed capacity =>
    s!"reply claims {claimed} bytes in a {capacity} byte buffer"
  | itemOverrun index size => s!"item {index} of {size} bytes does not fit its slot"
  | told text => text

end Violation

namespace ConfigFault

def message : ConfigFault → String
  | backendUnknown name => s!"no such backend: {name}"
  | databaseUnnamed => "database name is empty"
  | variableMissing name => s!"{name} is not set"
  | variableMalformed name value =>
    s!"{name} must be a non-negative integer, got {Text.quoted value}"
  | poolCounts => "bulk pool set needs at least one pool and one buffer per pool"
  | poolSizes first multiple =>
    "bulk pool sizes must start above zero and grow " ++
      s!"(first_size={first}, size_multiple={multiple})"
  | told text => text

end ConfigFault

namespace Error

def message : Error → String
  | stream fault => s!"IO error: {fault.message}"
  | engine text => s!"Engine failure: {text}"
  | poisoned db => s!"Database {db.label} is poisoned by an earlier engine failure"
  | databaseExists name => s!"Database already exists: {name}"
  | unsupported cause => s!"Unsupported operation: {cause.message}"
  | invalidArgument cause => s!"Invalid argument: {cause.message}"
  | serialization fault => s!"Serialization error: {fault.message}"
  | transport fault => s!"Transport error: {fault.message}"
  | protocol violation => s!"Protocol error: {violation.message}"
  | remote status => s!"Remote provider returned {status.label}"
  | truncated size => s!"Value of {size} bytes exceeds the requested size"
  | providerExists id => s!"Provider {id} is already registered"
  | config fault => s!"Configuration error: {fault.message}"

/-- Whether the engine behind a database is unusable. -/
def isEngineFailure : Error → Bool
  | engine _ | poisoned _ => true
  | _ => false

/-- The status of the remote provider behind an error, if it came from one. -/
def remoteStatus? : Error → Option Status
  | remote status => some status
  | truncated _ => some .truncated
  | _ => none

/-- Whether a connection on which this happens cannot go on. -/
def breaksConnection : Error → Bool
  | stream _ | protocol _ => true
  | _ => false

/-- The status with which a call that failed this way is answered. -/
def replyStatus (error : Error) : Status :=
  if error.isEngineFailure then .engineFailure
  else match error with
    | transport _ => .bulkFailure
    | _ => .invalidRequest

end Error

end KeyDepot
