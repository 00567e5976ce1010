import KeyDepot.Storage.PrefixScan

namespace KeyDepot

/-- A key with its value. -/
structure Entry where
  key : Bytes
  value : Bytes
  deriving DecidableEq, Repr, Inhabited

/-- Entries, ascending and without two equal keys. -/
abbrev Entries := List Entry

/-- How two keys compare. -/
abbrev Comparison := Bytes → Bytes → Ordering

namespace Entries

variable (order : Comparison)

/-- The entry whose key is equal to this one. -/
def find? (key : Bytes) (entries : Entries) : Option Entry :=
  List.find? (fun entry => order key entry.key == .eq) entries

/-- Puts a value under a key. An equal key stays as it is written and gets the new value. -/
def insert (key value : Bytes) : Entries → Entries
  | [] => [⟨key, value⟩]
  | entry :: rest =>
    match order key entry.key with
    | .lt => ⟨key, value⟩ :: entry :: rest
    | .eq => { entry with value } :: rest
    | .gt => entry :: insert key value rest

/-- The entries without the one whose key is equal to this one. -/
def erase (key : Bytes) (entries : Entries) : Entries :=
  entries.eraseP fun entry => order key entry.key == .eq

/-- The entries strictly after `start`; the empty key stands before all. -/
def after (start : Bytes) (entries : Entries) : Entries :=
  if start.isEmpty then entries
  else entries.filter fun entry => order start entry.key == .lt

/-- The entries in `(lower, upper]`; none unless `lower` comes before `upper`. -/
def between (lower upper : Bytes) (entries : Entries) : Entries :=
  if order lower upper = .lt then
    entries.filter fun entry =>
      order lower entry.key == .lt && !(order upper entry.key == .lt)
  else []

/-- The first `count` entries after `start` whose keys begin with `stem`. -/
def page (start : Bytes) (count : Nat) (stem : Bytes) (entries : Entries) : Entries :=
  PrefixScan.select Entry.key ⟨stem, count⟩ (after order start entries)

/-- The first `limit` entries in `(lower, upper]`, all of them when `limit` is zero. -/
def range (lower upper : Bytes) (limit : Nat) (entries : Entries) : Entries :=
  let found := between order lower upper entries
  if limit = 0 then found else found.take limit

end Entries

end KeyDepot
