import Restyle.Clock
import Restyle.Value.Basic

/-!
A cache whose entries live for a time. An entry that is too old goes when it is looked up; when a
full cache takes another entry, all that are too old go, and if that does not help the oldest ones.
Reading an entry does not make it younger.
-/
namespace Restyle

/-- How long an entry is good for. -/
inductive Lifetime where
  | seconds (n : Rat)
  | endless
  | instant
  /-- A value that no time can be compared with. -/
  | unusable (kind : String)
  deriving DecidableEq, Repr

/-- From how many entries on a cache is full. -/
inductive Capacity where
  | count (n : Int)
  | unbounded
  /-- No whole number: how many entries are too many cannot be told. -/
  | fraction (q : Rat)
  | unusable (kind : String)
  deriving DecidableEq, Repr

namespace Lifetime

def ofValue (v : Value) : Lifetime :=
  match v.toBinary? with
  | some (.finite q) => seconds q
  | some .negativeZero => seconds 0
  | some (.infinite true) => instant
  | some _ => endless
  | none => unusable v.kind

/-- Whether an entry of this age is too old. -/
def isOver (l : Lifetime) (age : Rat) : Bool :=
  match l with
  | seconds n => decide (n < age)
  | endless => false
  | instant => true
  | unusable _ => false

def fault? : Lifetime → Option Fault
  | unusable kind => some (.notOrdered ">" "float" kind)
  | _ => none

end Lifetime

namespace Capacity

def ofValue (v : Value) : Capacity :=
  match v with
  | .int n => count n
  | .bool b => count (if b then 1 else 0)
  | .real (.finite q) => fraction q
  | .real .negativeZero => fraction 0
  | .real (.infinite true) => fraction (-1)
  | .real _ => unbounded
  | v => unusable v.kind

def isReached (c : Capacity) (size : Nat) : Bool :=
  match c with
  | count n => decide (n ≤ size)
  | fraction q => decide (q ≤ (size : Rat))
  | _ => false

end Capacity

/-- A value, when it was stored and for how long. -/
structure CacheEntry (α : Type) where
  value : α
  stored : Clock
  life : Lifetime

/-- Entries by key, in the order in which the keys first came. -/
structure Cache (α : Type) where
  capacity : Capacity
  entries : List (String × CacheEntry α)

namespace CacheEntry

variable {α : Type}

def isOver (e : CacheEntry α) (now : Clock) : Bool := e.life.isOver (now.since e.stored)

end CacheEntry

namespace Cache

variable {α : Type}

def empty (capacity : Capacity) : Cache α := ⟨capacity, []⟩

/-- How many entries go beyond those that are too many. -/
def slack : Int := 10

def keys (c : Cache α) : List String := c.entries.map (·.1)

def isFull (c : Cache α) : Bool := c.capacity.isReached c.entries.length

def delete (c : Cache α) (key : String) : Cache α :=
  { c with entries := c.entries.filter fun e => e.1 != key }

def clear (c : Cache α) : Cache α := { c with entries := [] }

/-- Drops the entries that are too old. -/
def sweep (c : Cache α) (now : Clock) : Cache α :=
  { c with entries := c.entries.filter fun e => !e.2.isOver now }

/-- The keys from the oldest entry to the youngest; of equally old ones the first to come. -/
def oldest (c : Cache α) : List String :=
  (c.entries.mergeSort fun a b => decide (a.2.stored.seconds ≤ b.2.stored.seconds)).map (·.1)

/-- How many entries a full cache gives up. -/
def excess (c : Cache α) : Nat :=
  match c.capacity with
  | .count n => (c.entries.length - n + slack).toNat
  | _ => 0

/-- Makes room: drops what is too old, and if the cache is still full the oldest entries. -/
def compact (c : Cache α) (now : Clock) : Cache α :=
  let c := c.sweep now
  if c.isFull then
    let gone := c.oldest.take c.excess
    { c with entries := c.entries.filter fun e => !gone.contains e.1 }
  else c

def set (c : Cache α) (now : Clock) (key : String) (value : α) (life : Lifetime) : Cache α :=
  let c := if c.isFull then c.compact now else c
  { c with entries := assign key ⟨value, now, life⟩ c.entries }

/-- The value under a key, and the cache without the entry if it is too old. -/
def get (c : Cache α) (now : Clock) (key : String) : Option α × Cache α :=
  match c.entries.lookup key with
  | none => (none, c)
  | some e => if e.isOver now then (none, c.delete key) else (some e.value, c)

/-- Whether a value that is not too old is under the key; an older one goes. -/
def has (c : Cache α) (now : Clock) (key : String) : Bool × Cache α :=
  let (value, c) := c.get now key
  (value.isSome, c)

/-- Whether there is an entry under the key, of whatever age. -/
def contains (c : Cache α) (key : String) : Bool := (c.entries.lookup key).isSome

/-- How many entries are not too old. -/
def size (c : Cache α) (now : Clock) : Nat × Cache α :=
  let c := c.sweep now
  (c.entries.length, c)

/-! ### Entries and limits that cannot be compared -/

/-- What looking up a key would fail with. -/
def lookupFault? (c : Cache α) (key : String) : Option Fault :=
  (c.entries.lookup key).bind fun e => e.life.fault?

/-- What going over all entries would fail with. -/
def sweepFault? (c : Cache α) : Option Fault := c.entries.findSome? fun e => e.2.life.fault?

/-- What setting an entry would fail with. -/
def setFault? (c : Cache α) (now : Clock) : Option Fault :=
  match c.capacity with
  | .unusable kind => some (.notOrdered ">=" "int" kind)
  | capacity =>
    if c.isFull then
      match c.sweepFault? with
      | some f => some f
      | none =>
        match capacity with
        | .fraction _ => if (c.sweep now).isFull then some .badSlice else none
        | _ => none
    else none

/-- The cache after a set that failed: what was too old is gone if that could be told. -/
def afterFailedSet (c : Cache α) (now : Clock) : Cache α :=
  match c.capacity with
  | .fraction _ => if c.isFull && c.sweepFault?.isNone then c.sweep now else c
  | _ => c

end Cache

end Restyle
