import LeaseQueue.Name
import LeaseQueue.Random

/-!
Settings of the sweep that removes dead messages, and the draw that decides whether a receive sweeps.
-/
namespace LeaseQueue

structure SweepSettings where
  /-- Whether receiving sweeps at all. -/
  enabled : Bool
  /-- The most rows that one batch removes. -/
  maxRows : Nat
  /-- The most batches of one sweep. -/
  maxIterations : Nat
  /-- How many receives in a hundred sweep. -/
  probability : Double
  /-- The lock that guards sweeping a queue. -/
  lockId : QueueName → Int

namespace SweepSettings

def default : SweepSettings := ⟨true, 1000, 5, Binary.ofInt 20, QueueName.sweepLockId⟩

/-- Settings under which receiving never sweeps. -/
def disabled : SweepSettings := { default with enabled := false }

def validate (settings : SweepSettings) : Except Error Unit := do
  require (100 ≤ settings.maxRows && settings.maxRows ≤ 100000) (.maxRows settings.maxRows)
  require (1 ≤ settings.maxIterations && settings.maxIterations ≤ 100) (.maxIterations settings.maxIterations)
  require ((Binary.ofInt 0).le settings.probability && settings.probability.le (Binary.ofInt 100))
    (.probability settings.probability)

/-- Draws whether to sweep now. Disabled settings take no word. -/
def drawSweep (settings : SweepSettings) (source : RandomSource) : Bool × RandomSource :=
  if settings.enabled then
    let (drawn, rest) := source.percent
    (drawn.lt settings.probability, rest)
  else (false, source)

end SweepSettings

end LeaseQueue
