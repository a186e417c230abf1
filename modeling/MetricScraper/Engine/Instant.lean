import MetricScraper.Engine.Move

/-!
# Moments of the clock

Deadlines are moments of a clock that counts whole seconds in 64 bits with a sign.  A moment beyond
its end cannot be had.
-/

namespace MetricScraper.Engine

/-- The first number of whole seconds that is beyond the clock, `2 ^ 63`. -/
def clockLimit : Int := 0x8000000000000000

/-- A moment in nanoseconds; its whole seconds fit in 64 bits with a sign. -/
structure Instant where
  nanos : Int
  least : -clockLimit ≤ nanos / Duration.nanosPerSecond
  most : nanos / Duration.nanosPerSecond < clockLimit

namespace Instant

/-- The moment a duration later, if the clock has it. -/
def after? (i : Instant) (d : Duration) : Option Instant :=
  if h : (i.nanos + d) / Duration.nanosPerSecond < clockLimit then
    some ⟨i.nanos + d,
      Int.le_trans i.least (Int.ediv_le_ediv (by decide) (Int.le_add_of_nonneg_right (by simp))), h⟩
  else none

/-- The deadline of a scrape that begins at a moment, and the moment up to which it waits for its
runs; `none` when the clock does not have both. -/
def limits? (now : Instant) (timeout : Duration) : Option (Instant × Instant) := do
  let deadline ← now.after? timeout
  let cutoff ← deadline.after? grace
  some (deadline, cutoff)

end Instant

end MetricScraper.Engine
