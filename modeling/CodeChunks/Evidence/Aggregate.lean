import CodeChunks.Evidence.Verdict
import CodeChunks.Taxonomy.Basic

/-!
# Combining verdicts

Of several candidate verdicts the most confident wins (`pick`); the strongest single piece of
evidence breaks ties, and then the earlier candidate. Candidates of the winning class add their
evidence, and the adjustment goes up by the `reinforcement` if all candidates are of one rank. It
goes down by a `penalty` if the ranks of the others lie far enough from the winner's on average. The
remaining candidates become alternates.
-/

namespace CodeChunks.Verdict

/-- Whether a later candidate displaces the best one so far. -/
def beats (new best : Verdict) : Bool :=
  best.percent < new.percent ||
    (new.percent == best.percent && best.evidence.strongest < new.evidence.strongest)

/-- The winner among `best` and the candidates after it, and the candidates that lose. -/
def pick (best : Verdict) (losers : List Verdict) : List Verdict → Verdict × List Verdict
  | [] => (best, losers)
  | v :: rest => if v.beats best then pick v (best :: losers) rest else pick best (v :: losers) rest

/-- The reinforcement when every candidate is of the winner's rank. -/
def reinforcement : Int := 10

/-- The mean distance of ranks from which the ranks count as disparate. -/
def disparityThreshold : Nat := 5

def distance (t : Taxonomy) (winner other : Verdict) : Nat :=
  let a := (t.rank winner.cls).tier
  let b := (t.rank other.cls).tier
  (a - b) + (b - a)

/-- The penalty for a mean distance of `total / count`: five for each rank beyond the first, and
at least five. -/
def penalty (total count : Nat) : Int :=
  let tenth := (2 * (5 * total - 5 * count) + count) / (2 * count)
  if tenth < 5 then 5 else tenth

/-- The adjustment of the winner in view of the other candidates, one of which agrees. -/
def adjusted (t : Taxonomy) (winner : Verdict) (others : List Verdict) : Int :=
  if others.all fun v => t.rank v.cls == t.rank winner.cls then
    winner.adjustment + reinforcement
  else
    let total := others.foldl (fun n v => n + distance t winner v) 0
    if disparityThreshold * others.length ≤ total then
      winner.adjustment - penalty total others.length
    else winner.adjustment

/-- The verdict that a list of candidates comes to. -/
def aggregate (t : Taxonomy) : List Verdict → Option Verdict
  | [] => none
  | first :: rest =>
    let (winner, others) := pick first [] rest
    let agreeing := others.filter fun v => v.cls == winner.cls
    let merged : Verdict :=
      if agreeing.isEmpty then winner
      else
        { winner with
          evidence := agreeing.foldl (fun e v => e.union v.evidence) winner.evidence
          adjustment := adjusted t winner others }
    some (merged.withAlternates (others.map fun v => (v.cls, v.evidence)))

end CodeChunks.Verdict
