import Switchboard.Cache.Error
import Switchboard.Text.Utf8
import Switchboard.Time

/-!
# Cache — values by store and key, with a time to live

An entry is *live* until its expiry, if it has one. An entry that has expired reads as
absent. It is dropped when it is read, and `purge` drops all that have expired; until
then it counts towards the size. Time is an argument of every operation that looks at the
clock.
-/

namespace Switchboard

/-- A value held under a key of a store. -/
structure Entry where
  store : String
  key : String
  value : Bytes
  expiry : Option Instant
  deriving DecidableEq, Repr

namespace Entry

/-- The entry is not expired. -/
def liveAt (now : Instant) (e : Entry) : Bool :=
  match e.expiry with
  | none => true
  | some t => now.before t

/-- Whether an entry is the one under this key of this store. -/
def stands (store key : String) (e : Entry) : Bool := e.store = store && e.key = key

end Entry

/-- Entries, at most one under each store and key. -/
structure Cache where
  entries : List Entry := []
  deriving DecidableEq, Repr, Inhabited

namespace Cache

/-- Whether an entry can be kept there: neither store nor key may be empty. -/
def admits (store key : String) : Bool := store ≠ "" && key ≠ ""

/-- When an entry expires that is put now. A time to live that is not positive, or that
the clock cannot show, is none at all. -/
def expiryOf (now : Instant) (ttlSeconds : Int) : Option Instant :=
  if 0 < ttlSeconds then now.after? (Duration.ofSeconds ttlSeconds.toNat) else none

/-- The entry under a store and key, expired or not. -/
def find? (store key : String) (c : Cache) : Option Entry :=
  c.entries.find? (·.stands store key)

/-- The cache without the entry under a store and key. -/
def remove (store key : String) (c : Cache) : Cache :=
  { entries := c.entries.filter fun e => !e.stands store key }

/-- Reads a value; an expired entry is dropped. -/
def get (now : Instant) (store key : String) (c : Cache) :
    Except CacheError (Option Bytes × Cache) :=
  if admits store key = false then .error .invalidKey
  else match c.find? store key with
    | none => .ok (none, c)
    | some e => if e.liveAt now then .ok (some e.value, c) else .ok (none, c.remove store key)

/-- Puts a value in the place of any that stands there. -/
def put (now : Instant) (store key : String) (value : Bytes) (ttlSeconds : Int) (c : Cache) :
    Except CacheError Cache :=
  if admits store key = false then .error .invalidKey
  else
    let e : Entry := { store, key, value, expiry := expiryOf now ttlSeconds }
    .ok { entries := (c.remove store key).entries ++ [e] }

/-- Whether a live entry stands under a store and key. Nothing is dropped. -/
def contains (now : Instant) (store key : String) (c : Cache) : Except CacheError Bool :=
  if admits store key = false then .error .invalidKey
  else .ok ((c.find? store key).any (·.liveAt now))

/-- Drops the entry under a store and key, if there is one. -/
def delete (store key : String) (c : Cache) : Except CacheError Cache :=
  if admits store key = false then .error .invalidKey else .ok (c.remove store key)

/-- Drops every entry of a store, and counts them. -/
def clear (store : String) (c : Cache) : Nat × Cache :=
  ((c.entries.filter (·.store = store)).length,
    { entries := c.entries.filter (·.store ≠ store) })

/-- The order in which keys are listed, that of their bytes. -/
def byteOrder (a b : String) : Bool := Utf8.encode a ≤ Utf8.encode b

/-- The keys of the live entries of a store, in byte order. -/
def keys (now : Instant) (store : String) (c : Cache) : List String :=
  ((c.entries.filter fun e => e.store = store && e.liveAt now).map (·.key)).mergeSort byteOrder

/-- Drops every entry that has expired, and counts them. -/
def purge (now : Instant) (c : Cache) : Nat × Cache :=
  ((c.entries.filter fun e => !e.liveAt now).length,
    { entries := c.entries.filter (·.liveAt now) })

/-- How many entries are held, expired ones included. -/
def size (c : Cache) : Nat := c.entries.length

/-- Purging drops as many entries as it counts. -/
theorem size_purge (now : Instant) (c : Cache) :
    (c.purge now).2.size + (c.purge now).1 = c.size := by
  simp only [purge, size]
  induction c.entries with
  | nil => rfl
  | cons e es ih =>
    cases h : e.liveAt now <;> simp [h] <;> omega

end Cache
end Switchboard
