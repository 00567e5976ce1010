import KeyDepot.Error
import KeyDepot.Storage.Entries
import KeyDepot.Storage.Order

/-!
The storage contract: the operations of a store as data, their answers, and the state machines that
carry them out. A missing key and a refused put are answers; an error says that the operation was
not carried out.
-/

namespace KeyDepot

inductive Operation where
  /-- Answers whether the policy allowed the put. -/
  | put (key value : Bytes)
  /-- One put after the other. -/
  | putMulti (keys values : List Bytes)
  | get (key : Bytes)
  | contains (key : Bytes)
  /-- Answers whether an entry was removed. -/
  | erase (key : Bytes)
  /-- Up to `count` keys after `start` that begin with `stem`. -/
  | listKeys (start : Bytes) (count : Nat) (stem : Bytes)
  | listPairs (start : Bytes) (count : Nat) (stem : Bytes)
  /-- Up to `limit` keys in `(lower, upper]`, all of them when `limit` is zero. -/
  | keyRange (lower upper : Bytes) (limit : Nat)
  | pairRange (lower upper : Bytes) (limit : Nat)
  /-- Flush to the medium. -/
  | sync
  deriving DecidableEq, Repr, Inhabited

/-- The type of the answer to an operation. -/
@[reducible] def Operation.Answer : Operation → Type
  | put .. | contains _ | erase _ => Bool
  | putMulti .. => List Bool
  | get _ => Option Bytes
  | listKeys .. | keyRange .. => List Bytes
  | listPairs .. | pairRange .. => List Entry
  | sync => Unit

/-- An outcome together with the state after it. -/
abbrev Outcome (σ : Type) (α : Type) := Except Error α × σ

/-- A storage engine with states in `σ`. -/
class Engine (σ : Type) where
  /-- Starts the namespace of that name. -/
  openDatabase : String → σ → Outcome σ Unit
  /-- Replaces the order of the keys. -/
  installOrder : KeyOrder → σ → Outcome σ Unit
  perform : (operation : Operation) → σ → Outcome σ operation.Answer

variable {σ : Type}

/-- Puts one item after the other, and stops at the first error with the earlier items stored. -/
def putAll (put : Bytes → Bytes → σ → Outcome σ Bool) :
    List (Bytes × Bytes) → σ → Outcome σ (List Bool)
  | [], state => (.ok [], state)
  | (key, value) :: rest, state =>
    match put key value state with
    | (.error error, state) => (.error error, state)
    | (.ok stored, state) =>
      match putAll put rest state with
      | (.ok others, state) => (.ok (stored :: others), state)
      | (.error error, state) => (.error error, state)

/-- A batch of puts needs as many values as keys. -/
def putBatch (put : Bytes → Bytes → σ → Outcome σ Bool) (keys values : List Bytes) (state : σ) :
    Outcome σ (List Bool) :=
  if keys.length = values.length then putAll put (keys.zip values) state
  else (.error (.invalidArgument (.batchLengths keys.length values.length)), state)

end KeyDepot
