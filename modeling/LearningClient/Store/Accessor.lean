import LearningClient.Failure
import LearningClient.Store.Cache

/-!
# One fetch at a time for each key

An accessor stands between callers and a resource that has to be fetched. A
caller that loads a key gets the cached value if there is one. Otherwise the
first caller leads: it opens a flight, which is announced under the key
until the fetch is over, runs the fetch, and caches its result if it is a
success. Callers that come meanwhile wait for the flight. A flight that
lands gives all who wait the same result, failure included. If its leader
goes away first, the flight is lost, and each waiter starts over.

The functions here are the moments at which a caller runs: `load` when it is
called, `resume` when the flight it waits for is over, `land` and `abandon`
when the fetch that it leads yields or is dropped. Each takes the accessor as
the caller finds it and hands on the accessor as it leaves it, so that any
order of such moments is a composition of these functions.

Reading the cache may report nothing although a value is there: the next
`misses` reads do. Asking whether a value is there is always answered
truthfully.
-/

namespace LearningClient

/-- A fetch that callers of a key share. -/
inductive Flight (V : Type)
  /-- Its leader is still at it. -/
  | open_
  /-- It is over, with a result for all who wait. -/
  | landed (r : Outcome V)
  /-- Its leader went away before it was over. -/
  | lost
deriving Repr

/-- Cached access to a resource by key. -/
structure Accessor (V : Type) where
  cache : Cache V := {}
  /-- The flight that is under way for a key, by its number. -/
  pending : Table Nat := []
  /-- All flights there ever were; the number of a flight is its place. -/
  flights : List (Flight V) := []
  /-- How many of the next reads of the cache report nothing. -/
  misses : Nat := 0
deriving Repr

/-- What a caller does next. -/
inductive Turn (V : Type)
  /-- It has its result. -/
  | answered (r : Outcome V)
  /-- It waits for a flight. -/
  | waits (flight : Nat)
  /-- It runs the fetch and leads a flight. -/
  | leads (flight : Nat)
deriving Repr

namespace Accessor

variable {V : Type}

/-- Reads the cache. A read that is to report nothing uses up one of the
misses. -/
def read (a : Accessor V) (key : String) : Option V × Accessor V :=
  match a.misses with
  | 0 => (a.cache.get? key, a)
  | m + 1 => (none, { a with misses := m })

/-- Opens a flight for a key. -/
def openFlight (a : Accessor V) (key : String) : Accessor V :=
  { a with
    pending := a.pending.insert key a.flights.length
    flights := a.flights ++ [.open_] }

/-- A caller that has read nothing joins the flight of its key, or, if the
key has neither a flight nor a value, opens one. If there is a value after
all, the caller reads again, and once more for each read that reports
nothing. The recursion is on the number of misses that are left. -/
def join (a : Accessor V) (key : String) : Nat → Turn V × Accessor V
  | 0 =>
    match a.pending.get? key with
    | some f => (.waits f, { a with misses := 0 })
    | none =>
      match a.cache.get? key with
      | none => (.leads a.flights.length, { a.openFlight key with misses := 0 })
      | some v => (.answered (.ok v), { a with misses := 0 })
  | m + 1 =>
    match a.pending.get? key with
    | some f => (.waits f, { a with misses := m + 1 })
    | none =>
      match a.cache.get? key with
      | none => (.leads a.flights.length, { a.openFlight key with misses := m + 1 })
      | some _ => join a key m

/-- A caller asks for a key. -/
def load (a : Accessor V) (key : String) : Turn V × Accessor V :=
  match a.read key with
  | (some v, a) => (.answered (.ok v), a)
  | (none, a) => a.join key a.misses

/-- A caller that waits for a flight looks at it again. -/
def resume (a : Accessor V) (key : String) (flight : Nat) : Turn V × Accessor V :=
  match a.flights[flight]? with
  | some (.landed r) => (.answered r, a)
  | some .lost => a.load key
  | _ => (.waits flight, a)

/-- The fetch of a flight is over: a success is cached, the key is free
again, and the result is there for all who wait. -/
def land (a : Accessor V) (key : String) (flight : Nat) (r : Outcome V) : Accessor V :=
  { a with
    cache := match r with
      | .ok v => a.cache.insert key v
      | .error _ => a.cache
    pending := a.pending.erase key
    flights := a.flights.set flight (.landed r) }

/-- The leader of a flight goes away: the key is free again, and nothing
will come for those who wait. -/
def abandon (a : Accessor V) (key : String) (flight : Nat) : Accessor V :=
  { a with
    pending := a.pending.erase key
    flights := a.flights.set flight .lost }

/-- Whether a key has a cached value. -/
def isCached (a : Accessor V) (key : String) : Bool := a.cache.contains key

/-- The cached value of a key, as a reader finds it. -/
def cached (a : Accessor V) (key : String) : Option V × Accessor V := a.read key

/-- Puts a value into the cache that has not been fetched here. -/
def cacheResource (a : Accessor V) (key : String) (v : V) : Accessor V :=
  { a with cache := a.cache.insert key v }

/-- Takes the value of a key out of the cache. -/
def invalidate (a : Accessor V) (key : String) : Accessor V :=
  { a with cache := a.cache.invalidate key }

end Accessor

end LearningClient
