import CodeChunks.Evidence.Basic
import CodeChunks.Taxonomy.Class

/-!
# Verdicts

A `Verdict` puts a kind of node into a class. Its confidence is not stored: it is the weight of the
evidence plus an adjustment, in hundredths, cut to the range from nought to a hundred (`percent`).
Adjustments are 32-bit numbers, and so are the sums formed with them; a verdict whose numbers are
wider is out of range and cannot be used. The other classes that were considered are kept with the
evidence for them, in the order of the classes (`Alternates`).
-/

namespace CodeChunks

/-- How a verdict was reached. -/
inductive Method where
  | knownException
  | anywhere
  | tokenPurpose
  | category
  | connectionInference
  | positional
  | registryMapping
  | patternMatch
  deriving DecidableEq, Repr

namespace Method

def all : List Method :=
  [.knownException, .anywhere, .tokenPurpose, .category, .connectionInference, .positional,
   .registryMapping, .patternMatch]

def name : Method → String
  | .knownException => "known_exception"
  | .anywhere => "anywhere"
  | .tokenPurpose => "token_purpose"
  | .category => "category"
  | .connectionInference => "connection_inference"
  | .positional => "positional"
  | .registryMapping => "registry_mapping"
  | .patternMatch => "pattern_match"

/-- Whether an override of the language decided. -/
def isOverride : Method → Bool
  | .registryMapping | .patternMatch => true
  | _ => false

def ofName? (n : String) : Option Method := all.find? (·.name == n)

end Method

/-- Whether a number has 32 bits. -/
def fits32 (n : Int) : Bool := -2147483648 ≤ n && n ≤ 2147483647

theorem fits32_iff {n : Int} : fits32 n = true ↔ -2147483648 ≤ n ∧ n ≤ 2147483647 := by
  simp [fits32]

/-- The classes considered besides the winner, in the order of the classes. -/
abbrev Alternates := List (CodeClass × EvidenceSet)

namespace Alternates

/-- Adds evidence for a class. -/
def add (c : CodeClass) (e : EvidenceSet) : Alternates → Alternates
  | [] => [(c, e)]
  | (d, f) :: rest =>
    if c.index < d.index then (c, e) :: (d, f) :: rest
    else if c = d then (d, f.union e) :: rest
    else (d, f) :: add c e rest

def get? (a : Alternates) (c : CodeClass) : Option EvidenceSet := a.lookup c

/-- Adds evidence for every class but one. -/
def addOthers (winner : CodeClass) (a : Alternates) (more : List (CodeClass × EvidenceSet)) :
    Alternates :=
  more.foldl (fun a (c, e) => if c = winner then a else a.add c e) a

end Alternates

structure Verdict where
  cls : CodeClass
  method : Method
  evidence : EvidenceSet
  adjustment : Int
  alternates : Alternates := []
  deriving DecidableEq, Repr

namespace Verdict

def weight (v : Verdict) : Int := v.evidence.weight

/-- The confidence in hundredths. -/
def percent (v : Verdict) : Int :=
  let n := v.weight + v.adjustment
  if n < 0 then 0 else if 100 < n then 100 else n

/-- Whether the adjustment and the sum behind the confidence have 32 bits. -/
def inRange (v : Verdict) : Bool := fits32 v.adjustment && fits32 (v.weight + v.adjustment)

/-- The verdict, unless it is out of range. -/
def checked? (v : Verdict) : Option Verdict := if v.inRange then some v else none

def isHighConfidence (v : Verdict) : Bool := 80 ≤ v.percent

def isReliable (v : Verdict) : Bool := 60 ≤ v.percent

/-- The adjustment that brings evidence to a target in hundredths. -/
def adjustmentFor (e : EvidenceSet) (target : Int) : Int := target - e.weight

/-- A verdict whose confidence is a target in hundredths. -/
def ofTarget (c : CodeClass) (m : Method) (e : EvidenceSet) (target : Int) : Verdict :=
  { cls := c, method := m, evidence := e, adjustment := adjustmentFor e target }

/-- The same verdict at another confidence. -/
def rescored (v : Verdict) (target : Int) : Verdict :=
  { v with adjustment := adjustmentFor v.evidence target }

/-- The same verdict with more classes considered. -/
def withAlternates (v : Verdict) (more : List (CodeClass × EvidenceSet)) : Verdict :=
  { v with alternates := v.alternates.addOthers v.cls more }

theorem percent_nonneg (v : Verdict) : 0 ≤ v.percent := by
  simp only [percent]
  repeat' split
  all_goals omega

theorem percent_le (v : Verdict) : v.percent ≤ 100 := by
  simp only [percent]
  repeat' split
  all_goals omega

end Verdict

/-- The nearest hundredth of a score, a half going away from zero, cut to 32 bits. A score that is
no number counts as zero. -/
def hundredths (x : Float) : Int := ((x * 100.0).round.toInt32).toInt

end CodeChunks
