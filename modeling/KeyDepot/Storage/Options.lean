import KeyDepot.Error

namespace KeyDepot

/-- What a put on a key that is there does. -/
inductive Duplicates where
  | ignore
  | allow
  deriving DecidableEq, Repr, Inhabited

def Duplicates.name : Duplicates → String
  | ignore => "Ignore"
  | allow => "Allow"

structure StoreOptions where
  duplicates : Duplicates := .ignore
  noOverwrite : Bool := false
  inMemory : Bool := false
  deriving DecidableEq, Repr, Inhabited

/-- Whether a put on a key that is there must be refused. -/
def StoreOptions.rejectsExisting (options : StoreOptions) : Bool :=
  options.noOverwrite || options.duplicates == .ignore

/-- The engine a database is created with. -/
inductive Backend where
  | map
  | null
  | durable
  deriving DecidableEq, Repr, Inhabited

namespace Backend

def name : Backend → String
  | map => "map"
  | null => "null"
  | durable => "sled"

/-- The engine of that name; letters of ASCII may have either case. -/
def ofName (name : String) : Except Error Backend :=
  match [map, null, durable].find? fun backend =>
      backend.name.toList == name.toList.map Char.toLower with
  | some backend => .ok backend
  | none => .error (.config (.backendUnknown name))

end Backend

end KeyDepot
