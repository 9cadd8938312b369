import CodeChunks.Store.Reserve

/-!
# Recently used entries

A store of bounded size. To `put` an entry or to find one makes it the most recent; when there are
too many, the least recent is dropped.
-/

namespace CodeChunks

variable {κ α : Type} [DecidableEq κ]

/-- The entries, the most recent first. -/
structure Recent (κ α : Type) where
  capacity : Nat
  entries : List (κ × α) := []

namespace Recent

/-- An empty store; a capacity of nought counts as one. -/
def ofCapacity (capacity : Nat) : Recent κ α := { capacity := max capacity 1 }

/-- An empty store, if there is room for so many entries. -/
def ofCapacity? (capacity : Nat) : Option (Recent κ α) :=
  if Store.canReserve capacity then some (ofCapacity capacity) else none

def size (r : Recent κ α) : Nat := r.entries.length

def isEmpty (r : Recent κ α) : Bool := r.size == 0

def without (r : Recent κ α) (k : κ) : List (κ × α) := r.entries.filter fun e => e.1 != k

def put (r : Recent κ α) (k : κ) (a : α) : Recent κ α :=
  { r with entries := ((k, a) :: r.without k).take r.capacity }

/-- The entry of a key, without using it. -/
def peek? (r : Recent κ α) (k : κ) : Option α := r.entries.lookup k

/-- The entry of a key, which becomes the most recent. -/
def get? (r : Recent κ α) (k : κ) : Recent κ α × Option α :=
  match r.peek? k with
  | some a => ({ r with entries := (k, a) :: r.without k }, some a)
  | none => (r, none)

theorem size_put_le (r : Recent κ α) (k : κ) (a : α) : (r.put k a).size ≤ r.capacity := by
  unfold put size
  exact List.length_take_le _ _

theorem peek?_put (r : Recent κ α) (k : κ) (a : α) (h : 0 < r.capacity) :
    (r.put k a).peek? k = some a := by
  unfold put peek?
  obtain ⟨n, hn⟩ : ∃ n, r.capacity = n + 1 := ⟨r.capacity - 1, by omega⟩
  rw [hn, List.take_succ_cons, List.lookup_cons_self]

end Recent

end CodeChunks
