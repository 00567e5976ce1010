import KeyDepot.Message.Request
import KeyDepot.Message.Status

namespace KeyDepot

inductive Reply where
  | opened (status : Status) (db : Option DatabaseId)
  /-- Answers every kind of put, and erase. -/
  | ack (status : Status)
  /-- When the value is too long, `value` is empty and `size` the stored length. -/
  | got (status : Status) (value : Bytes) (size : UInt64)
  | bulkGot (status : Status) (size : UInt64)
  | length (status : Status) (size : UInt64)
  /-- Answers both listings. -/
  | listed (status : Status) (count : UInt64)
  deriving DecidableEq, Repr, Inhabited

namespace Reply

def status : Reply → Status
  | opened status _ | ack status | got status _ _ | bulkGot status _ | length status _
  | listed status _ => status

/-- The empty answer to a call of this kind. -/
def failure (rpc : Rpc) (status : Status) : Reply :=
  match rpc with
  | .openName => opened status none
  | .put | .bulkPut | .erase => ack status
  | .get => got status [] 0
  | .bulkGet => bulkGot status 0
  | .length => length status 0
  | .listKeys | .listPairs => listed status 0

@[simp] theorem status_failure (rpc : Rpc) (status : Status) :
    (failure rpc status).status = status := by
  cases rpc <;> rfl

private def fields (title : String) (parts : List (String × String)) : String :=
  let shown := parts.map fun (label, text) => label ++ ": " ++ text
  title ++ " \x7b " ++ ", ".intercalate shown ++ " \x7d"

private def decimals (bytes : Bytes) : String :=
  "[" ++ ", ".intercalate (bytes.map fun byte => toString byte.toNat) ++ "]"

/-- The reply with its fields, as an error message shows it. -/
def describe : Reply → String
  | opened status db =>
    let shown := match db with
      | none => "None"
      | some id => s!"Some(DatabaseId({id.number.toNat}))"
    fields "Open" [("status", status.name), ("db_id", shown)]
  | ack status => fields "Ack" [("status", status.name)]
  | got status value size =>
    fields "Get" [("status", status.name), ("value", decimals value),
      ("size", toString size.toNat)]
  | bulkGot status size =>
    fields "BulkGet" [("status", status.name), ("size", toString size.toNat)]
  | length status size =>
    fields "Length" [("status", status.name), ("size", toString size.toNat)]
  | listed status count =>
    fields "List" [("status", status.name), ("count", toString count.toNat)]

end Reply

end KeyDepot
