import CodeChunks.Config.Basic

/-!
# Limits of one run

A `Meter` counts the chunks of a run and knows how long the run may take. Counting goes on after the
limit was exceeded. How long a run has taken is read from a `Clock`, again and again as it goes.
-/

namespace CodeChunks

/-- How long a run has taken at its first look at the clock, at its second, and so on. -/
structure Clock where
  elapsed : Nat → Duration

/-- The clock of a run that takes no time. -/
def Clock.still : Clock := ⟨fun _ => ⟨0⟩⟩

structure Meter where
  timeout : Duration
  maxChunks : Nat
  count : Nat := 0

namespace Meter

def ofConfig (c : Config) : Meter := { timeout := c.timeout, maxChunks := c.maxChunks }

/-- The meter at the start of a run, and after its end. -/
def reset (m : Meter) : Meter := { m with count := 0 }

/-- One more chunk than `count`, if there may be so many. -/
def countOne (maxChunks count : Nat) : Except Error Nat :=
  if maxChunks < count + 1 then .error (.chunkLimitExceeded (count + 1) maxChunks)
  else .ok (count + 1)

def register (m : Meter) : Meter × Except Error Unit :=
  ({ m with count := m.count + 1 }, (countOne m.maxChunks m.count).map fun _ => ())

/-- Whether a run that has taken some time may go on. -/
def checkTime (m : Meter) (elapsed : Duration) : Except Error Unit :=
  if m.timeout.nanos < elapsed.nanos then .error (.timeout elapsed m.timeout) else .ok ()

end Meter

end CodeChunks
