namespace KeyDepot

inductive Status where
  | ok
  | notFound
  | policyViolation
  | truncated
  | unknownDatabase
  | unknownProvider
  | engineFailure
  | bulkFailure
  | invalidRequest
  deriving DecidableEq, Repr, Inhabited

namespace Status

/-- Every status, in the order of its code. -/
def all : List Status :=
  [ok, notFound, policyViolation, truncated, unknownDatabase, unknownProvider, engineFailure,
    bulkFailure, invalidRequest]

/-- The code of a status is its place in `all`. -/
def code : Status → Nat
  | ok => 0
  | notFound => 1
  | policyViolation => 2
  | truncated => 3
  | unknownDatabase => 4
  | unknownProvider => 5
  | engineFailure => 6
  | bulkFailure => 7
  | invalidRequest => 8

/-- The status with the given code. -/
def ofCode? (code : Nat) : Option Status :=
  all[code]?

/-- The word shown to users. -/
def label : Status → String
  | ok => "OK"
  | notFound => "NOT_FOUND"
  | policyViolation => "POLICY_VIOLATION"
  | truncated => "TRUNCATED"
  | unknownDatabase => "UNKNOWN_DATABASE"
  | unknownProvider => "UNKNOWN_PROVIDER"
  | engineFailure => "ENGINE_FAILURE"
  | bulkFailure => "BULK_FAILURE"
  | invalidRequest => "INVALID_REQUEST"

/-- The word shown inside the description of a reply. -/
def name : Status → String
  | ok => "Ok"
  | notFound => "NotFound"
  | policyViolation => "PolicyViolation"
  | truncated => "Truncated"
  | unknownDatabase => "UnknownDatabase"
  | unknownProvider => "UnknownProvider"
  | engineFailure => "EngineFailure"
  | bulkFailure => "BulkFailure"
  | invalidRequest => "InvalidRequest"

theorem ofCode?_code (status : Status) : ofCode? status.code = some status := by
  cases status <;> rfl

theorem code_of_ofCode? {code : Nat} {status : Status} (found : ofCode? code = some status) :
    status.code = code := by
  obtain ⟨inside, same⟩ := List.getElem?_eq_some_iff.mp found
  have bound : code < 9 := inside
  subst same
  match code, bound with
  | 0, _ | 1, _ | 2, _ | 3, _ | 4, _ | 5, _ | 6, _ | 7, _ | 8, _ => rfl

end Status

end KeyDepot
