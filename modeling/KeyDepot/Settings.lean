import KeyDepot.Error
import KeyDepot.Text.Blank

namespace KeyDepot

/-- Sizing of buffer pools: pool `i` holds `buffers` buffers of `firstSize * multiple ^ i` bytes. -/
structure PoolSettings where
  pools : Nat
  buffers : Nat
  firstSize : Nat
  multiple : Nat
  deriving DecidableEq, Repr, Inhabited

namespace PoolSettings

/-- Refuses a sizing that describes no usable pools. -/
def validate (settings : PoolSettings) : Except Error Unit :=
  if settings.pools = 0 ∨ settings.buffers = 0 then .error (.config .poolCounts)
  else if settings.firstSize = 0 ∨ settings.multiple < 2 then
    .error (.config (.poolSizes settings.firstSize settings.multiple))
  else .ok ()

def poolsVariable : String := "MESHKV_BULK_NPOOLS"
def buffersVariable : String := "MESHKV_BULK_NBUFS"
def firstSizeVariable : String := "MESHKV_BULK_FIRST_SIZE"
def multipleVariable : String := "MESHKV_BULK_SIZE_MULTIPLE"

/-- The number a variable holds; blanks around it do not matter. -/
def readVariable (name : String) (value : Option String) : Except Error Nat :=
  match value with
  | none => .error (.config (.variableMissing name))
  | some raw =>
    match Text.natural? Text.maxWord (Text.stripBlanks raw.toList) with
    | some number => .ok number
    | none => .error (.config (.variableMalformed name raw))

/-- The sizing in the four variables; none when all of them are unset. -/
def ofVariables (lookup : String → Option String) : Except Error (Option PoolSettings) :=
  let names := [poolsVariable, buffersVariable, firstSizeVariable, multipleVariable]
  if names.all fun name => (lookup name).isNone then .ok none
  else do
    let pools ← readVariable poolsVariable (lookup poolsVariable)
    let buffers ← readVariable buffersVariable (lookup buffersVariable)
    let firstSize ← readVariable firstSizeVariable (lookup firstSizeVariable)
    let multiple ← readVariable multipleVariable (lookup multipleVariable)
    let settings : PoolSettings := { pools, buffers, firstSize, multiple }
    settings.validate
    return some settings

end PoolSettings

/-- Times are in milliseconds, and zero means no limit. -/
structure Settings where
  /-- The directory of databases that outlive the server. -/
  dataDir : String := "./meshkv_data"
  listen : String := "127.0.0.1:7878"
  maxConnections : Nat := 1024
  /-- How long a server waits for the next frame of an idle connection. -/
  readTimeout : Nat := 0
  /-- How long a client waits for the reply to a call. -/
  callTimeout : Nat := 0
  /-- The greatest message that carries its value; beyond it the value travels through a region. -/
  maxInline : Nat := TransferMode.usualThreshold
  /-- Pools of buffers for regions; without them every call allocates its own. -/
  pool : Option PoolSettings := none
  deriving DecidableEq, Repr, Inhabited

end KeyDepot
