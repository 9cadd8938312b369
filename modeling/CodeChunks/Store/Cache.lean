import CodeChunks.Digest.Sip
import CodeChunks.Store.Reserve
import CodeChunks.Table

/-!
# Caches

A cache keeps the first value of a key. A value that is missing is computed without holding the
cache, so another one may have been put there meanwhile; then that one counts. The keys of a cache
are spread over sixteen parts. In a bounded cache each part has room for a number of them, its
`Bound`, and the key of a full part that was not used for the longest time gives way to a new one.
-/

namespace CodeChunks

variable {κ α : Type} [DecidableEq κ]

/-- The number of parts of a cache. -/
def Cache.shards : Nat := 16

/-- In which part a key is kept, and how many keys a part has room for. -/
structure Bound (κ : Type) where
  place : κ → Fin Cache.shards
  room : Nat

/-- The entries of a part. -/
def Bound.holds (b : Bound κ) (i : Fin Cache.shards) (e : κ × α) : Bool := b.place e.1 == i

structure Cache (κ α : Type) where
  /-- In each part, the entry that was not used for the longest time comes first. -/
  entries : Table κ α := []
  bound : Option (Bound κ) := none

namespace Cache

def empty : Cache κ α := {}

/-- An empty cache for so many entries, with at least one in each part. -/
def ofCapacity (place : κ → Fin shards) (capacity : Nat) : Cache κ α :=
  { bound := some ⟨place, max ((capacity + (shards - 1)) / shards) 1⟩ }

/-- The part in which a text is kept. -/
def placeOf (s : String) : Fin shards :=
  ⟨(Digest.Sip.ofText s).toNat % shards, Nat.mod_lt _ (by decide)⟩

/-- An empty cache with room for so many entries, if there is that much room. -/
def ofCapacity? (capacity : Nat) : Option (Cache String α) :=
  if Store.canReserve ((capacity + (shards - 1)) / shards) then some (ofCapacity placeOf capacity)
  else none

def get? (c : Cache κ α) (k : κ) : Option α := c.entries.get? k

def contains (c : Cache κ α) (k : κ) : Bool := c.entries.contains k

def size (c : Cache κ α) : Nat := c.entries.length

def isEmpty (c : Cache κ α) : Bool := c.size == 0

def clear (c : Cache κ α) : Cache κ α := { c with entries := [] }

/-- The entries that stay when a key is put that has no value. -/
def spared (c : Cache κ α) (k : κ) : Table κ α :=
  match c.bound with
  | none => c.entries
  | some b =>
    if c.entries.countP (b.holds (b.place k)) < b.room then c.entries
    else c.entries.eraseP (b.holds (b.place k))

/-- Puts a value for a key that has none. -/
def put (c : Cache κ α) (k : κ) (a : α) : Cache κ α :=
  { c with entries := (c.spared k).insert k a }

/-- The value of a key, which is now the one most recently used. -/
def find? (c : Cache κ α) (k : κ) : Cache κ α × Option α :=
  match c.bound, c.get? k with
  | some _, some a => ({ c with entries := (c.entries.erase k).insert k a }, some a)
  | _, found => (c, found)

/-- Puts a value unless the key has one; also whether it was put. -/
def insertIfAbsent (c : Cache κ α) (k : κ) (a : α) : Cache κ α × Bool :=
  if c.contains k then (c, false) else (c.put k a, true)

/-- Puts a value that was computed, or finds the one that came first. -/
def settle (c : Cache κ α) (k : κ) (a : α) : Cache κ α × α :=
  match c.find? k with
  | (c, some kept) => (c, kept)
  | (c, none) => (c.put k a, a)

/-- The value of a key, computed if it is missing. What happens to the cache while it is computed is
up to `meanwhile`. -/
def getOrCompute (c : Cache κ α) (k : κ) (meanwhile : Cache κ α → Cache κ α) (a : α) :
    Cache κ α × α :=
  match c.find? k with
  | (c, some kept) => (c, kept)
  | (c, none) => (meanwhile c).settle k a

theorem contains_iff {c : Cache κ α} {k : κ} : c.contains k = true ↔ ∃ a, c.get? k = some a := by
  unfold contains Table.contains get?
  exact Option.isSome_iff_exists

/-- A value is put exactly if the key had none. -/
theorem snd_insertIfAbsent (c : Cache κ α) (k : κ) (a : α) :
    (c.insertIfAbsent k a).2 = !c.contains k := by
  unfold insertIfAbsent
  cases c.contains k <;> rfl

end Cache

end CodeChunks
