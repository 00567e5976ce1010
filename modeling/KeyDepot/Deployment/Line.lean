import KeyDepot.Service.Connection

namespace KeyDepot

structure Line where
  /-- The server's end. -/
  far : Connection
  /-- What the server has written and the caller has not read. -/
  unread : Bytes := []
  /-- Whether the caller has ended its stream. -/
  ended : Bool := false
  deriving Inhabited

namespace Line

variable {σ : Type} [Engine σ]

/-- A new line, while `active` others are open. A server that takes no more connections closes it at
once. -/
def connect (active : Nat) (server : Server σ) : Line :=
  if server.accepts active then { far := Connection.accept server }
  else { far := { phase := .closed (.ok ()) } }

/-- Sends bytes. They are lost when the server's end is closed. -/
def send (bytes : Bytes) (line : Line) (server : Server σ) : Line × Server σ :=
  if line.far.phase.isClosed then (line, server)
  else
    let (far, progress) := line.far.receive bytes server
    ({ line with far, unread := line.unread ++ progress.written }, progress.server)

/-- Ends the caller's stream. -/
def finish (line : Line) (server : Server σ) : Line × Server σ :=
  if line.far.phase.isClosed then ({ line with ended := true }, server)
  else
    let (far, progress) := line.far.finish server
    ({ far, unread := line.unread ++ progress.written, ended := true }, progress.server)

/-- The next frame on the line, or the failure to read one; nothing while the caller has to wait. -/
def next? (line : Line) : Option (Reading × Line) :=
  match takeFrame? line.unread with
  | some taken => some (taken.reading, { line with unread := taken.rest })
  | none =>
    if line.far.phase.isClosed then some (.error (.stream .earlyEnd), { line with unread := [] })
    else none

/-- Time passes with nothing sent, more than the server waits. -/
def expire (line : Line) : Line :=
  { line with far := line.far.expire }

/-- The server may have been told to stop since. -/
def notice (server : Server σ) (line : Line) : Line :=
  { line with far := line.far.notice server }

end Line

end KeyDepot
