import Switchboard.Cache.Memory

/-!
# Store — what a server's cache is kept in

The server uses four operations of whatever holds its cache: the cache of this library, or
one from outside, of which nothing is known here but that it can fail.
-/

namespace Switchboard

/-- What a server's cache is kept in. -/
inductive CacheStore where
  | memory (cache : Cache)
  -- A store whose every operation fails.
  | failing (error : CacheError)
  deriving Repr

namespace CacheStore

/-- Looks a value up. The store changes if the value turns out to have expired. -/
def get (now : Instant) (store key : String) :
    CacheStore → Except CacheError (Option Bytes × CacheStore)
  | memory c => (c.get now store key).map fun (value, c) => (value, memory c)
  | failing e => .error e

/-- Keeps a value for so many seconds. -/
def put (now : Instant) (store key : String) (value : Bytes) (ttlSeconds : Int) :
    CacheStore → Except CacheError CacheStore
  | memory c => (c.put now store key value ttlSeconds).map memory
  | failing e => .error e

/-- Whether there is a value that has not expired. -/
def contains (now : Instant) (store key : String) : CacheStore → Except CacheError Bool
  | memory c => c.contains now store key
  | failing e => .error e

/-- Drops a value, if there is one. -/
def delete (store key : String) : CacheStore → Except CacheError CacheStore
  | memory c => (c.delete store key).map memory
  | failing e => .error e

end CacheStore
end Switchboard
