/-!
# Room for a bounded store

A bounded store reserves its table at once. The table has an eighth of its `slots` to spare, their
number is a power of two, and a slot takes seventeen bytes. A table that no address could span
cannot be reserved (`canReserve`).
-/

namespace CodeChunks.Store

/-- The slots of a table for so many entries. -/
def slots (capacity : Nat) : Nat := (8 * capacity / 7).nextPowerOfTwo

/-- The bytes that a slot takes: an entry and a mark. -/
def slotBytes : Nat := 17

/-- The greatest size of a table in bytes. -/
def maxBytes : Nat := 9223372036854775792

/-- Whether a table for so many entries can be reserved. -/
def canReserve (capacity : Nat) : Bool := slotBytes * slots capacity + 16 ≤ maxBytes

end CodeChunks.Store
