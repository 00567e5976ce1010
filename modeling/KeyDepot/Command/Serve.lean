import KeyDepot.Command.Grammar
import KeyDepot.Service.Desk

namespace KeyDepot.Command

/-- What the command line of a server says. -/
structure ServeArguments where
  settings : Settings := {}
  provider : UInt8 := 0
  /-- Declarations of databases, each `name` or `name:backend`. -/
  databases : List String := []
  deriving DecidableEq, Repr, Inhabited

namespace ServeArguments

def grammar : Grammar where
  parameters :=
    [{ long := "data-dir", letter := some 'd' },
     { long := "listen", letter := some 'l' },
     { long := "max-connections", letter := some 'm'
       accepts := fun text => (number? text).isSome },
     { long := "read-timeout-ms", accepts := fun text => (number? text).isSome },
     { long := "provider-id", letter := some 'p', accepts := fun text => (octet? text).isSome },
     { long := "database", repeated := true }]
  versioned := true

def read (line : List String) : Except Stop ServeArguments := do
  let given ← grammar.read line
  let usual : Settings := {}
  let numberOf (long : String) : Option Nat := (given.value? long).bind number?
  return {
    settings := { usual with
      dataDir := (given.value? "data-dir").getD usual.dataDir
      listen := (given.value? "listen").getD usual.listen
      maxConnections := (numberOf "max-connections").getD usual.maxConnections
      readTimeout := (numberOf "read-timeout-ms").getD 0 }
    provider := ((given.value? "provider-id").bind octet?).getD 0
    databases := given.allValues "database" }

end ServeArguments

/-- Reads the declaration of a database: a name, and after the first colon a backend. -/
def readDeclaration (dataDir declaration : String) : Except Error DatabaseConfig := do
  let characters := declaration.toList
  let name := String.ofList (characters.takeWhile (· ≠ ':'))
  let backend ← match characters.dropWhile (· ≠ ':') with
    | [] => .ok Backend.map
    | _ :: backend => Backend.ofName (String.ofList backend)
  if name.isEmpty then .error (.config .databaseUnnamed)
  else .ok { name, path := dataDir, backend }

/-- The greatest number of connections that can be counted. -/
def greatestCapacity : Nat := UInt64.size / 8 - 1

namespace ServeArguments

/-- Opens the databases one after the other. A bad declaration ends the program with 2, a database
that does not open with 1. -/
def openAll (arguments : ServeArguments) : List String → Desk → Except Nat Desk
  | [], desk => .ok desk
  | declaration :: rest, desk =>
    match readDeclaration arguments.settings.dataDir declaration with
    | .error _ => .error 2
    | .ok config =>
      match desk.declare arguments.provider config with
      | (.error _, _) => .error 1
      | (.ok _, desk) => arguments.openAll rest desk

/-- A server that is ready to serve, or the code with which the program ends. -/
def start (arguments : ServeArguments) : Except Nat Desk := do
  let server : Server Store :=
    { settings := arguments.settings, providers := [{ id := arguments.provider }] }
  let desk ← arguments.openAll arguments.databases { server }
  if greatestCapacity < arguments.settings.maxConnections then .error 101 else .ok desk

end ServeArguments

/-- Starts the server that a command line describes, or gives the code with which it ends. -/
def serve (line : List String) : Except Nat Desk :=
  match ServeArguments.read line with
  | .error stop => .error stop.code
  | .ok arguments => arguments.start

end KeyDepot.Command
