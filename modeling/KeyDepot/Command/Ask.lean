import KeyDepot.Command.Grammar
import KeyDepot.Deployment.Service

namespace KeyDepot.Command

/-- What is asked of a database. -/
inductive Question where
  | get (key : String) (maxSize : Nat)
  | put (key value : String)
  | erase (key : String)
  | length (key : String)
  | list (stem start : String) (count keyCapacity : Nat) (valueCapacity : Option Nat)
  | shutdown
  deriving DecidableEq, Repr, Inhabited

/-- What the command line of a client says. -/
structure AskArguments where
  server : String := "127.0.0.1:7878"
  provider : UInt8 := 0
  database : String := "default"
  timeout : Nat := 0
  question : Question
  deriving DecidableEq, Repr, Inhabited

namespace Question

private def numeric (long : String) : Parameter :=
  { long, accepts := fun text => (number? text).isSome }

/-- The line after each subcommand. -/
def grammars : List (String × Grammar) :=
  [("get", { parameters := [numeric "max-size"], words := 1 }),
   ("put", { words := 2 }),
   ("erase", { words := 1 }),
   ("length", { words := 1 }),
   ("list",
    { parameters :=
        [{ long := "prefix" }, { long := "start" }, numeric "max", numeric "key-capacity",
         numeric "values"] }),
   ("shutdown", {})]

def read (command : String) (line : List String) : Except Stop Question :=
  match grammars.lookup command with
  | none => .error .bad
  | some grammar => do
    let given ← grammar.read line
    let word (place : Nat) : String := given.words.getD place ""
    let numberOf (long : String) : Option Nat := (given.value? long).bind number?
    match command with
    | "get" => return .get (word 0) ((numberOf "max-size").getD 1048576)
    | "put" => return .put (word 0) (word 1)
    | "erase" => return .erase (word 0)
    | "length" => return .length (word 0)
    | "list" =>
      return .list ((given.value? "prefix").getD "") ((given.value? "start").getD "")
        ((numberOf "max").getD 100) ((numberOf "key-capacity").getD 256) (numberOf "values")
    | _ => return .shutdown

end Question

namespace AskArguments

def grammar : Grammar where
  parameters :=
    [{ long := "server", letter := some 's' },
     { long := "provider", letter := some 'p', accepts := fun text => (octet? text).isSome },
     { long := "db", letter := some 'd' },
     { long := "timeout-ms", accepts := fun text => (number? text).isSome }]
  commands := Question.grammars.map Prod.fst
  versioned := true

def read (line : List String) : Except Stop AskArguments := do
  let given ← grammar.read line
  let (command, rest) := given.command.getD ("", [])
  let question ← Question.read command rest
  return {
    server := (given.value? "server").getD "127.0.0.1:7878"
    provider := ((given.value? "provider").bind octet?).getD 0
    database := (given.value? "db").getD "default"
    timeout := ((given.value? "timeout-ms").bind number?).getD 0
    question }

end AskArguments

/-- What a program leaves behind when it ends. -/
structure Printout where
  code : Nat := 0
  out : String := ""
  err : String := ""
  deriving DecidableEq, Repr, Inhabited

namespace Printout

/-- Lines on the standard output. -/
def lines (texts : List String) : Printout :=
  { out := String.join (texts.map fun text => text ++ "\n") }

def failure (error : Error) : Printout :=
  { code := 1, err := "error: " ++ error.message ++ "\n" }

/-- What a panic leaves behind, but for what it tells of where it came from. -/
def panicked : Printout := { code := 101 }

end Printout

namespace Question

/-- The call a question makes on its database. -/
def call (db : DatabaseId) : Question → Except Panic Call
  | get key maxSize => return .get db (Bytes.ofText key) maxSize
  | put key value => return .put db (Bytes.ofText key) (Bytes.ofText value)
  | erase key => return .erase db (Bytes.ofText key)
  | length key => return .length db (Bytes.ofText key)
  | list stem start count keyCapacity none => do
    let slots ← Call.freshSlots count keyCapacity
    return .listKeys db (Bytes.ofText start) (Bytes.ofText stem) slots
  | list stem start count keyCapacity (some valueCapacity) => do
    let slots ← Call.freshSlots count keyCapacity
    let valueSlots ← Call.freshSlots count valueCapacity
    return .listPairs db (Bytes.ofText start) (Bytes.ofText stem) slots valueSlots
  | shutdown => return .openName ""

/-- What is printed for the items of a listing. -/
def listed (count : Nat) (slots : Slots) (withValues : Bool) : List String :=
  let keys := (slots.keys.take count).map Text.Utf8.lossy
  if withValues then
    List.zipWith (fun key value => key ++ " = " ++ Text.Utf8.lossy value) keys slots.values
  else keys

/-- What is printed for a call that has returned. -/
def print : (call : Call) → Returned call → Printout
  | .get .., ⟨.ok (some value), _⟩ => .lines [Text.Utf8.lossy value]
  | .get .., ⟨.ok none, _⟩ => .lines ["(not found)"]
  | .get .., ⟨.error (.truncated size), _⟩ =>
    .lines [s!"(value is {size.toNat} bytes, retry with --max-size {size.toNat})"]
  | .put .., ⟨.ok stored, _⟩ => .lines [if stored then "OK" else "(rejected: key exists)"]
  | .erase .., ⟨.ok erased, _⟩ => .lines [if erased then "OK" else "(not found)"]
  | .length .., ⟨.ok (some size), _⟩ => .lines [toString size]
  | .length .., ⟨.ok none, _⟩ => .lines ["(not found)"]
  | .listKeys .., ⟨.ok count, slots⟩ => .lines (listed count slots false)
  | .listPairs .., ⟨.ok count, slots⟩ => .lines (listed count slots true)
  | .openName _, ⟨.ok _, _⟩ => {}
  | _, ⟨.error error, _⟩ => .failure error

end Question

namespace AskArguments

/-- What is printed after a call; none when it never ends. -/
def await {α : Type} (fate : Fate (α × Service) Service)
    (next : α → Service → Option (Printout × Service)) : Option (Printout × Service) :=
  match fate with
  | .returned (visit, service) => next visit service
  | .waits => none
  | .panicked _ service => some (.panicked, service)

/-- Opens the database and makes the call; none when it never returns. -/
def converse (arguments : AskArguments) (service : Service) : Option (Printout × Service) :=
  match arguments.question with
  | .shutdown =>
    match service.shutdown with
    | (.ok (), service) => some (.lines ["shutdown sent"], service)
    | (.error error, service) => some (.failure error, service)
  | question =>
    let (handle, service) := service.acquire "" arguments.provider
    await (service.call handle (.openName arguments.database)) fun opened service =>
      match opened.outcome with
      | .error error => some (.failure error, service)
      | .ok db =>
        match question.call db with
        | .error _ => some (.panicked, service)
        | .ok call =>
          await (service.call handle call) fun returned service =>
            some (Question.print call returned, service)

/-- A client for this command line, with its settings, or why there is none. -/
def caller (arguments : AskArguments) (lookup : String → Option String) :
    Except Panic (Except Error Caller) :=
  match PoolSettings.ofVariables lookup with
  | .error error => return .error error
  | .ok pool => do
    let made ← Client.create { callTimeout := arguments.timeout, pool }
    return made.bind fun client =>
      match Net.SocketAddress.lookup arguments.server with
      | .ok address => .ok { client, peer := address.text }
      | .error fault => .error (.transport (.lookup arguments.server fault))

end AskArguments

/-- Runs one command as a client of the service, whose lines it drops at its end; none when it never
ends. -/
def ask (line : List String) (lookup : String → Option String) (service : Service) :
    Option (Printout × Service) :=
  match AskArguments.read line with
  | .error stop => some ({ code := stop.code }, service)
  | .ok arguments =>
    match arguments.caller lookup with
    | .error _ => some (.panicked, service)
    | .ok (.error error) => some (.failure error, service)
    | .ok (.ok caller) => do
      let (printout, service) ← arguments.converse { service with caller, handles := {} }
      return (printout, { service with caller := {} })

end KeyDepot.Command
