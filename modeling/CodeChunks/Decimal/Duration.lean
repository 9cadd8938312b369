import CodeChunks.Decimal.Fixed

/-!
# Spans of time

A span of time counts nanoseconds. It is written in the largest of seconds, milliseconds,
microseconds and nanoseconds that does not make it smaller than one, with as many places as it
needs.
-/

namespace CodeChunks

/-- A span of time in nanoseconds. -/
structure Duration where
  nanos : Nat
  deriving DecidableEq, Repr, Inhabited

namespace Duration

def ofSeconds (n : Nat) : Duration := ⟨n * 1000000000⟩

def millis (d : Duration) : Nat := d.nanos / 1000000

/-- A count of units, each of `Nat.pow 10 places` nanoseconds, with the places it needs. -/
def inUnit (places : Nat) (name : String) (nanos : Nat) : String :=
  let unit := Nat.pow 10 places
  let digits := (Decimal.padded places (nanos % unit)).toList
  let shown := (digits.reverse.dropWhile (· == '0')).reverse
  (nanos / unit).repr ++ (if nanos % unit == 0 then "" else "." ++ String.ofList shown) ++ name

def text (d : Duration) : String :=
  if 1000000000 ≤ d.nanos then inUnit 9 "s" d.nanos
  else if 1000000 ≤ d.nanos then inUnit 6 "ms" d.nanos
  else if 1000 ≤ d.nanos then inUnit 3 "µs" d.nanos
  else d.nanos.repr ++ "ns"

end Duration

end CodeChunks
