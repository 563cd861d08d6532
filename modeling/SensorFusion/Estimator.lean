/-
  SensorFusion.Estimator — the estimation task with everything it touches: scheduler,
  tracker, environment and the liveness levels it published.

  Arrivals may come at any time; those during a run are made by the environment while a
  sensor is read, or by a filter unit. `poll` runs the pipeline if there is a reason to:
    1. take the unread samples from the tracker,
    2. read and screen each of them,
    3. pass the snapshot through the filter chain,
    4. publish the liveness level,
    5. arm the next deadline.
-/

import SensorFusion.Scheduler.Basic
import SensorFusion.Tracker

namespace SensorFusion

structure Estimator (ε υ : Type) where
  env : ε
  tracker : UpdateTracker
  scheduler : Scheduler υ
  /-- Every liveness level published, the oldest first. -/
  published : Array AlarmLevel

namespace Estimator

variable {ε υ : Type}

def new (env : ε) (chain : FilterChain υ) (settings : EstimationSettings) : Estimator ε υ :=
  ⟨env, .empty, .new chain settings, #[]⟩

def withGate (x : Estimator ε υ) (gate : SanityGate) : Estimator ε υ :=
  { x with scheduler := { x.scheduler with gate } }

def arrive (x : Estimator ε υ) (ms : List SensorMask) : Estimator ε υ := { x with tracker := x.tracker.markAll ms }

variable [Environment ε]

/-- Milliseconds until the deadline, if there is one; looks at the clock. -/
def untilDeadline (x : Estimator ε υ) : Option UInt64 × Estimator ε υ :=
  match x.scheduler.deadline with
  | some d => (some ((Environment.clock x.env).remaining d), { x with env := Environment.tick x.env })
  | none => (none, x)

variable [FilterUnit υ]

/-- Start the estimator; the clock is looked at last. -/
def start (x : Estimator ε υ) (home : Option HomeLocation) : Except EstimationError ChainReport × Estimator ε υ :=
  match x.scheduler.start home (Environment.clock x.env) with
  | (.ok report, scheduler) => (.ok report, { x with scheduler, env := Environment.tick x.env })
  | (.error e, scheduler) => (.error e, { x with scheduler })

def run (x : Estimator ε υ) (trigger : Trigger) (startedAt : Timestamp) : RunReport × Estimator ε υ :=
  let s := x.scheduler
  let taken := x.tracker.take
  let gated := s.gate.apply s.home taken.1 x.env
  let passed := s.chain.run gated.screening.snapshot
  let report : RunReport :=
    { trigger
      startedAt
      consumed := taken.1
      accepted := gated.screening.accepted
      rejected := gated.screening.rejected
      rejections := gated.screening.rejections
      snapshot := passed.snapshot
      chain := passed.report
      alarm := trigger.level taken.1
      nextDeadline := s.nextDeadline (Environment.clock gated.after) }
  (report,
    { env := Environment.tick gated.after
      tracker := (taken.2.markAll gated.arrivals).markAll passed.arrivals
      scheduler := s.leave report passed.chain
      published := x.published.push report.alarm })

/-- Run the pipeline if there is a reason to; `none` means that there was nothing to do
    yet. The run request is consumed either way. -/
def poll (x : Estimator ε υ) : Option RunReport × Estimator ε υ :=
  if x.scheduler.state = .armed then
    let now := Environment.clock x.env
    let asked := x.tracker.takeDispatch
    let x := { x with env := Environment.tick x.env, tracker := asked.2 }
    match x.scheduler.trigger? now asked.1 with
    | none => (none, x)
    | some trigger =>
      let ran := run { x with scheduler := x.scheduler.enter now } trigger now
      (some ran.1, ran.2)
  else (none, x)

end Estimator

end SensorFusion
