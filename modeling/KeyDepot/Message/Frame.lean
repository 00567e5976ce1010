import KeyDepot.Message.Reply

namespace KeyDepot

inductive FrameKind where
  | request
  | reply
  | bulkPull
  | bulkData
  | bulkPush
  | bulkAck
  | bulkDenied
  | shutdown
  deriving DecidableEq, Repr, Inhabited

namespace FrameKind

/-- The byte that opens a frame of this kind. -/
def byte : FrameKind → UInt8
  | request => 1
  | reply => 2
  | bulkPull => 3
  | bulkData => 4
  | bulkPush => 5
  | bulkAck => 6
  | bulkDenied => 7
  | shutdown => 8

/-- Every kind of frame, in the order of its byte. -/
def all : List FrameKind :=
  [request, reply, bulkPull, bulkData, bulkPush, bulkAck, bulkDenied, shutdown]

/-- The kind of frame that a byte opens. -/
def ofByte? (byte : UInt8) : Option FrameKind :=
  all.find? fun kind => kind.byte == byte

def name : FrameKind → String
  | request => "Request"
  | reply => "Reply"
  | bulkPull => "BulkPull"
  | bulkData => "BulkData"
  | bulkPush => "BulkPush"
  | bulkAck => "BulkAck"
  | bulkDenied => "BulkDenied"
  | shutdown => "Shutdown"

theorem ofByte?_byte (kind : FrameKind) : ofByte? kind.byte = some kind := by
  cases kind <;> rfl

end FrameKind

inductive Frame where
  /-- A call for the provider with number `target`. -/
  | request (target : UInt8) (request : Request)
  | reply (reply : Reply)
  /-- The server asks for the contents of a region of the caller. -/
  | bulkPull (region : UInt64)
  /-- The caller answers a pull. -/
  | bulkData (segments : List Bytes)
  /-- The server writes into a region of the caller. -/
  | bulkPush (region : UInt64) (writes : List SegmentWrite)
  /-- The caller confirms a push. -/
  | bulkAck
  /-- The caller refuses a pull or a push. -/
  | bulkDenied (reason : String)
  /-- Stop serving. -/
  | shutdown
  deriving DecidableEq, Repr, Inhabited

def Frame.kind : Frame → FrameKind
  | request .. => .request
  | reply _ => .reply
  | bulkPull _ => .bulkPull
  | bulkData _ => .bulkData
  | bulkPush .. => .bulkPush
  | bulkAck => .bulkAck
  | bulkDenied _ => .bulkDenied
  | shutdown => .shutdown

end KeyDepot
