/-!
# Runs of a case mapping

A case mapping moves long runs of code points by the same distance: every point, or every second
one, from a first to a last. A table of runs gives the mapping in both directions.
-/

namespace CodeChunks.Text

/-- The points `first`, `first + step`, …, `last`, each moved by `shift`. -/
structure CaseRun where
  first : Nat
  last : Nat
  step : Nat
  shift : Int
  deriving DecidableEq, Repr

namespace CaseRun

def covers (r : CaseRun) (n : Nat) : Bool :=
  r.first ≤ n && n ≤ r.last && (n - r.first) % r.step == 0

/-- Where the run moves `n`, if it covers it. -/
def image? (r : CaseRun) (n : Nat) : Option Nat :=
  if r.covers n then some (n + r.shift).toNat else none

/-- The point that the run moves to `n`, if there is one. -/
def source? (r : CaseRun) (n : Nat) : Option Nat :=
  let m := (n - r.shift).toNat
  if r.covers m && m + r.shift == (n : Int) then some m else none

/-- The points that the run moves, each with where it goes. -/
def pairs (r : CaseRun) : List (Nat × Nat) :=
  (List.range ((r.last - r.first) / r.step + 1)).map fun k =>
    let n := r.first + k * r.step
    (n, (n + r.shift).toNat)

end CaseRun

/-- The image of `n` under the first run that covers it, and `n` itself if none does. -/
def mapCase (table : List CaseRun) (n : Nat) : Nat :=
  (table.findSome? (·.image? n)).getD n

end CodeChunks.Text
