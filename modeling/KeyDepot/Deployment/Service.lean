import KeyDepot.Client.Handles
import KeyDepot.Deployment.Caller
import KeyDepot.Service.Desk

namespace KeyDepot

structure Service where
  network : Network := .steady
  desk : Desk := {}
  caller : Caller := {}
  handles : Handles := {}

namespace Service

instance : Inhabited Service := ⟨{}⟩

/-- The lines the server serves now. -/
def activeLines (service : Service) : Nat := service.caller.openLines

/-- A new state of the server; a server that was told to stop closes the lines nobody uses. -/
def withServer (server : Server Store) (service : Service) : Service :=
  { service with
    desk := { service.desk with server }
    caller := service.caller.notice server }

/-- A new handle on a provider, held under a name. -/
def acquire (name : String) (target : UInt8) (service : Service) : Handle × Service :=
  let (handle, handles) := service.handles.acquire name target
  (handle, { service with handles })

/-- Makes a call through a handle. -/
def call (handle : Handle) (call : Call) (service : Service) :
    Fate (Returned call × Service) Service :=
  let after (caller : Caller) (server : Server Store) : Service :=
    { service with caller }.withServer server
  (service.caller.fate service.network service.activeLines handle.target call
    service.desk.server).map (fun visit => (visit.returned, after visit.caller visit.server))
      fun (caller, server) => after caller server

/-- Stops the server and waits for its end: it flushes its databases. -/
def stop (service : Service) : Service :=
  service.withServer service.desk.server.stop.flush

/-- Asks the server over the network to stop, and waits for its end. -/
def shutdown (service : Service) : Except Error Unit × Service :=
  let (outcome, caller, server) :=
    service.caller.shutdown service.network service.activeLines service.desk.server
  let service := { service with caller }.withServer server
  match outcome with
  | .error error => (.error error, service)
  | .ok () => (.ok (), if server.stopped then service.stop else service)

end Service

/-- Serves again after the end: the server takes its address and stops at once. -/
def Server.serveStopped {σ : Type} (server : Server σ) : Except Error Unit :=
  match Net.SocketAddress.lookup server.settings.listen with
  | .ok _ => .ok ()
  | .error fault => .error (.stream (.told fault.message))

end KeyDepot
