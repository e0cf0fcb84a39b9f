/-!
# A cache of what was used last

The cache keeps at most `capacity` entries.  Its entries stand in the order of their last use, the
one that was not used for the longest time first; that one makes room for a new one.  Hits and
misses are counted until the cache is cleared.
-/

namespace PromptPress

/-- Entries in the order of their last use, with counters of the look-ups. -/
structure Recent (α β : Type) where
  entries : List (α × β) := []
  capacity : Nat
  hits : Nat := 0
  misses : Nat := 0
  capacity_pos : 0 < capacity := by decide

namespace Recent

variable {α β : Type} [DecidableEq α]

/-- An empty cache. -/
def empty (capacity : Nat) (h : 0 < capacity) : Recent α β := ⟨[], capacity, 0, 0, h⟩

/-- The capacity of a cache, where nothing else is said. -/
def usualCapacity : Int := 256

/-- An empty cache, if the capacity is positive. -/
def ofCapacity? (capacity : Int) : Option (Recent α β) :=
  if h : 0 < capacity.toNat then some (empty capacity.toNat h) else none

/-- The keys, the one that was used last at the end. -/
def keys (c : Recent α β) : List α := c.entries.map (·.1)

/-- The number of entries. -/
def size (c : Recent α β) : Nat := c.entries.length

/-- Is there an entry for the key? -/
def contains (c : Recent α β) (k : α) : Bool := c.keys.contains k

/-- The value of a key. -/
def find? (c : Recent α β) (k : α) : Option β := (c.entries.find? fun e => e.1 = k).map (·.2)

/-- The entries of all other keys. -/
def without (c : Recent α β) (k : α) : List (α × β) := c.entries.filter fun e => e.1 ≠ k

/-- Looks a key up and marks it as used. -/
def get (c : Recent α β) (k : α) : Option β × Recent α β :=
  match c.find? k with
  | some v => (some v, { c with entries := c.without k ++ [(k, v)], hits := c.hits + 1 })
  | none => (none, { c with misses := c.misses + 1 })

/-- Stores a value and marks its key as used. -/
def put (c : Recent α β) (k : α) (v : β) : Recent α β :=
  if c.contains k then { c with entries := c.without k ++ [(k, v)] }
  else { c with entries := c.entries.drop (c.size + 1 - c.capacity) ++ [(k, v)] }

/-- Drops the entry of a key. -/
def delete (c : Recent α β) (k : α) : Bool × Recent α β :=
  (c.contains k, { c with entries := c.without k })

/-- Drops all entries and starts the counters anew. -/
def clear (c : Recent α β) : Recent α β := { c with entries := [], hits := 0, misses := 0 }

end Recent

end PromptPress
