/-
  SensorFusion.RunLoop — driving an estimator until told to stop.

  Each turn looks first whether to stop, then polls. After a run its report is handed
  on; when there was nothing to do the loop parks until the deadline, or until
  something wakes it. Arrivals may come in either case.
-/

import SensorFusion.Estimator

namespace SensorFusion

structure Interlude (ε : Type) where
  /-- Arrivals meanwhile, in order. -/
  arrivals : List SensorMask
  after : ε

class Supervised (ε : Type) extends Environment ε where
  /-- The loop has been asked to stop. -/
  stopRequested : ε → Bool
  /-- A report is handed on. -/
  onRun : RunReport → ε → Interlude ε
  /-- The loop parks, for so many milliseconds at most. -/
  park : UInt64 → ε → Interlude ε

inductive LoopEvent where
  | ran (report : RunReport)
  | parked (ms : UInt64)

namespace LoopEvent

def report? : LoopEvent → Option RunReport
  | ran r => some r
  | parked _ => none

def runs : LoopEvent → UInt64
  | ran _ => 1
  | parked _ => 0

end LoopEvent

namespace Estimator

variable {ε υ : Type} [Supervised ε] [FilterUnit υ]

def resume (x : Estimator ε υ) (i : Interlude ε) : Estimator ε υ :=
  { x with env := i.after, tracker := x.tracker.markAll i.arrivals }

/-- How long to park: until the deadline, at least a millisecond; without a deadline, for
    the timeout. -/
def parkTime (x : Estimator ε υ) : UInt64 × Estimator ε υ :=
  let left := x.untilDeadline
  (max (left.1.getD x.scheduler.timeout.toUInt64) 1, left.2)

/-- One turn of the loop; `none` when it stops. -/
def turn (x : Estimator ε υ) : Option (LoopEvent × Estimator ε υ) :=
  if Supervised.stopRequested x.env then none
  else
    match x.poll with
    | (some report, x) => some (.ran report, x.resume (Supervised.onRun report x.env))
    | (none, x) =>
      let wait := x.parkTime
      some (.parked wait.1, wait.2.resume (Supervised.park wait.1 wait.2.env))

structure LoopResult (ε υ : Type) where
  /-- The count of runs, which starts over after 64 bits. -/
  count : UInt64
  events : List LoopEvent
  last : Estimator ε υ
  /-- The loop was asked to stop, and did not just run out of turns. -/
  stopped : Bool

namespace LoopResult

def runs (r : LoopResult ε υ) : Nat := r.count.toNat

def reports (r : LoopResult ε υ) : List RunReport := r.events.filterMap LoopEvent.report?

end LoopResult

/-- Turn until told to stop, `turns` times at most. -/
def runUntil (x : Estimator ε υ) : Nat → LoopResult ε υ
  | 0 => ⟨0, [], x, Supervised.stopRequested x.env⟩
  | turns + 1 =>
    match x.turn with
    | none => ⟨0, [], x, true⟩
    | some (event, x) =>
      let rest := x.runUntil turns
      { rest with count := event.runs + rest.count, events := event :: rest.events }

end Estimator

end SensorFusion
