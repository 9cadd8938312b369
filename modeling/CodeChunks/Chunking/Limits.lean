import CodeChunks.Chunking.Selection
import CodeChunks.Meter

/-!
# Applying limits to a plan

The steps of a plan are taken in order until one breaks a limit. What was asked up to then stays
asked. `Meter.inTime` are the steps that come in time: a run looks at the clock before it looks at a
node. `Limits.take` are those of them that keep the limits on depth and number.
-/

namespace CodeChunks

/-- The steps before the first look at the clock that comes too late, and the failure then. -/
def Meter.inTime (m : Meter) (clock : Clock) (looks : Nat) : List Step → List Step × Option Error
  | [] => ([], none)
  | .visit depth :: rest =>
    match m.checkTime (clock.elapsed looks) with
    | .error e => ([], some e)
    | .ok () =>
      let (timely, late) := m.inTime clock (looks + 1) rest
      (.visit depth :: timely, late)
  | s :: rest =>
    let (timely, late) := m.inTime clock looks rest
    (s :: timely, late)

structure Limits where
  maxDepth : Nat
  maxChunks : Nat
  deriving DecidableEq, Repr

namespace Limits

def ofConfig (c : Config) : Limits := ⟨c.maxDepth, c.maxChunks⟩

/-- The number of drafts after a step, given the number before it. -/
def allow (l : Limits) (count : Nat) : Step → Except Error Nat
  | .ask _ => .ok count
  | .visit depth =>
    if l.maxDepth < depth then .error (.depthExceeded depth l.maxDepth) else .ok count
  | .emit => Meter.countOne l.maxChunks count

/-- The steps that are taken, and the failure that ends them. -/
def take (l : Limits) (count : Nat) : List Step → List Step × Option Error
  | [] => ([], none)
  | s :: rest =>
    match l.allow count s with
    | .error e => ([], some e)
    | .ok count =>
      let (taken, failure) := l.take count rest
      (s :: taken, failure)

end Limits

/-- The nodes whose class is asked for. -/
def Step.asked (steps : List Step) : List NodeId :=
  steps.filterMap fun
    | .ask i => some i
    | _ => none

end CodeChunks
