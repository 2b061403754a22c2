/-!
# Stores — values handed from a sending step to a receiving one

A store keeps at most one value for a key. Each entry carries its key with it,
knows when it was added and has a number of its own, larger for later ones. A
store of limited capacity makes room for a new key by dropping what is under the
key of the entry that is oldest by time and number; adding under a key that is
present replaces its entry and drops nothing.

Everything done to a store is one of the accesses of `Access`, each of them
a single step (`Store.access`).
-/

namespace Scenario
namespace Correlation

/-- A stored value, and where it is found. -/
structure Entry (α : Type) where
  /-- The key it is found under. -/
  key : String
  /-- The key it carries with it. -/
  ownKey : String
  /-- The value. -/
  value : α
  /-- When it was added, in milliseconds. -/
  createdAt : Nat
  /-- Its number in the order of additions. -/
  sequence : Nat
  deriving DecidableEq

/-- Whether an entry is older than another: by time, then by number. -/
def Entry.olderThan {α : Type} (a b : Entry α) : Bool :=
  a.createdAt < b.createdAt || (a.createdAt == b.createdAt && a.sequence < b.sequence)

/-- Values by key, possibly of limited number. -/
structure Store (α : Type) where
  /-- The entries. -/
  entries : List (Entry α)
  /-- The number the next entry gets. Numbers are taken not to run out. -/
  nextSequence : Nat
  /-- The largest number of entries; none means no limit. -/
  capacity : Option Nat

namespace Store

variable {α : Type}

/-- The store without entries. A limit is at least one. -/
def empty (limit : Option Nat) : Store α := ⟨[], 0, limit.map (max 1)⟩

/-- The entry under a key. -/
def entry? (s : Store α) (key : String) : Option (Entry α) :=
  s.entries.find? fun e => e.key == key

/-- Whether there is an entry under a key. -/
def contains (s : Store α) (key : String) : Bool := (s.entry? key).isSome

/-- The number of entries. -/
def size (s : Store α) : Nat := s.entries.length

/-- Whether there are no entries. -/
def isEmpty (s : Store α) : Bool := s.size == 0

/-- The entries under other keys. -/
def without (s : Store α) (key : String) : List (Entry α) :=
  s.entries.filter fun e => e.key != key

/-- The store without the entry under a key. -/
def erase (s : Store α) (key : String) : Store α := { s with entries := s.without key }

/-- The oldest of some entries. -/
def oldestOf : List (Entry α) → Option (Entry α)
  | [] => none
  | e :: es =>
    match oldestOf es with
    | some f => some (if f.olderThan e then f else e)
    | none => some e

/-- Whether the store has as many entries as it may. -/
def isFull (s : Store α) : Bool := s.capacity.any fun limit => limit ≤ s.size

/-- The store with room for a key: a full one drops what is found under the own
key of its oldest entry, unless the key is present. -/
def makeRoom (s : Store α) (key : String) : Store α :=
  if s.isFull && !s.contains key then
    match oldestOf s.entries with
    | some oldest => s.erase oldest.ownKey
    | none => s
  else s

/-- Add a value under a key, at a given time. -/
def add (s : Store α) (now : Nat) (key : String) (value : α) : Store α :=
  let roomy := s.makeRoom key
  { roomy with
    entries := roomy.without key ++ [⟨key, key, value, now, roomy.nextSequence⟩]
    nextSequence := roomy.nextSequence + 1 }

/-- Take the value under a key out of the store. -/
def remove (s : Store α) (key : String) : Option α × Store α :=
  ((s.entry? key).map (·.value), s.erase key)

/-- The store without its entries; numbers go on. -/
def clear (s : Store α) : Store α := { s with entries := [] }

end Store

/-! ## Accesses -/

/-- What can be done to a store in one step. -/
inductive Access (α : Type) where
  | add (key : String) (value : α)
  | remove (key : String)
  | contains (key : String)
  | size
  | isEmpty
  | clear
  deriving DecidableEq

/-- The answer to an access. -/
inductive Answer (α : Type) where
  | done
  | taken (value : Option α)
  | flag (value : Bool)
  | count (value : Nat)
  deriving DecidableEq

/-- One access at a given time: the answer and the store after it. -/
def Store.access {α : Type} (s : Store α) (now : Nat) : Access α → Answer α × Store α
  | .add key value => (.done, s.add now key value)
  | .remove key => (.taken (s.remove key).1, (s.remove key).2)
  | .contains key => (.flag (s.contains key), s)
  | .size => (.count s.size, s)
  | .isEmpty => (.flag s.isEmpty, s)
  | .clear => (.done, s.clear)

end Correlation
end Scenario
