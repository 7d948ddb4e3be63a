/-!
A bounded store of query results that gives up the entry used least recently. Keys name the query, so
all results of one file can be dropped by the beginning of their keys.
-/
namespace ModuleScope

def queryKey (kind path : String) (line character : Int) : String :=
  s!"{kind}:{path}:{line}:{character}"

def fileKey (kind path : String) : String := s!"{kind}:{path}:"

/-- Entries from the least to the most recently used, and how many of them there may be. -/
structure Cache (α : Type) where
  capacity : Nat
  entries : List (String × α)
deriving Repr

structure CapacityTooSmall where
  capacity : Int
deriving DecidableEq, Repr

def CapacityTooSmall.message (fault : CapacityTooSmall) : String :=
  s!"Cache size must be at least 1, got {fault.capacity}"

namespace Cache

variable {α : Type}

def defaultCapacity : Nat := 100

def empty (capacity : Nat) : Cache α := ⟨capacity, []⟩

def create (capacity : Int) : Except CapacityTooSmall (Cache α) :=
  if capacity < 1 then .error ⟨capacity⟩ else .ok (empty capacity.toNat)

def keys (cache : Cache α) : List String := cache.entries.map fun entry => entry.1

def size (cache : Cache α) : Nat := cache.entries.length

def others (cache : Cache α) (key : String) : List (String × α) :=
  cache.entries.filter fun entry => entry.1 != key

def peek? (cache : Cache α) (key : String) : Option α := cache.entries.lookup key

def contains (cache : Cache α) (key : String) : Bool := (cache.peek? key).isSome

def get (cache : Cache α) (key : String) : Option α × Cache α :=
  match cache.peek? key with
  | some value => (some value, { cache with entries := cache.others key ++ [(key, value)] })
  | none => (none, cache)

/-- Puts a value under a key, which becomes the most recently used. A new key first drops the least
recently used entries for which there is no room. -/
def insert (cache : Cache α) (key : String) (value : α) : Cache α :=
  let others := cache.others key
  { cache with entries := others.drop (others.length + 1 - cache.capacity) ++ [(key, value)] }

def erase (cache : Cache α) (key : String) : Bool × Cache α :=
  (cache.contains key, { cache with entries := cache.others key })

def beginsWith (text beginning : String) : Bool := beginning.toList.isPrefixOf text.toList

def invalidate (cache : Cache α) (beginning : String) : Nat × Cache α :=
  ((cache.entries.filter fun entry => beginsWith entry.1 beginning).length,
   { cache with entries := cache.entries.filter fun entry => !beginsWith entry.1 beginning })

def clear (cache : Cache α) : Cache α := { cache with entries := [] }

end Cache

end ModuleScope
