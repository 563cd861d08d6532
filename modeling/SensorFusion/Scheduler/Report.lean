/-
  SensorFusion.Scheduler.Report — everything that happened in one run, and the counters
  kept over all runs.
-/

import SensorFusion.Alarm
import SensorFusion.Chain.Report
import SensorFusion.Clock
import SensorFusion.Gate

namespace SensorFusion

inductive Trigger where
  /-- A sample arrived. -/
  | sensorUpdate
  /-- The deadline passed. -/
  | timeout
  deriving DecidableEq

/-- A warning exactly when the deadline started the run and no class had a sample. -/
def Trigger.level (t : Trigger) (consumed : SensorMask) : AlarmLevel :=
  if t = .timeout ∧ consumed.isEmpty then .warning else .clear

theorem Trigger.level_eq_warning_iff {t : Trigger} {consumed : SensorMask} :
    t.level consumed = .warning ↔ t = .timeout ∧ consumed = .empty := by
  rw [← SensorMask.isEmpty_iff, level]
  split <;> simp_all

structure RunReport where
  trigger : Trigger
  /-- The time when the run started. -/
  startedAt : Timestamp
  /-- Unread samples taken from the tracker. -/
  consumed : SensorMask
  /-- Classes that passed the gate. -/
  accepted : SensorMask
  /-- Classes that the gate dropped. -/
  rejected : SensorMask
  /-- Why each was dropped, in class order. -/
  rejections : List Rejection
  /-- The snapshot after the last filter unit. -/
  snapshot : Snapshot
  chain : ChainReport
  /-- The liveness level published for this run. -/
  alarm : AlarmLevel
  /-- The deadline armed at the end of the run. -/
  nextDeadline : Timestamp

structure SchedulerStats where
  /-- Completed runs. -/
  runs : UInt32
  /-- Runs started by a sample. -/
  sensorRuns : UInt32
  /-- Runs started by the deadline. -/
  timeoutRuns : UInt32
  /-- Runs that published a warning. -/
  staleRuns : UInt32
  /-- Samples dropped by the gate, by class. -/
  dropped : Vector UInt32 sensorClassCount
  /-- Failed updates of filter units. -/
  filterFailures : UInt32
  deriving DecidableEq

namespace SchedulerStats

def zero : SchedulerStats := ⟨0, 0, 0, 0, Vector.replicate _ 0, 0⟩

def record (s : SchedulerStats) (r : RunReport) : SchedulerStats :=
  { runs := Counter.next s.runs
    sensorRuns := if r.trigger = .sensorUpdate then Counter.next s.sensorRuns else s.sensorRuns
    timeoutRuns := if r.trigger = .timeout then Counter.next s.timeoutRuns else s.timeoutRuns
    staleRuns := if r.alarm = .warning then Counter.next s.staleRuns else s.staleRuns
    dropped := Counter.countInto s.dropped (r.rejections.map fun x => x.sensor.index)
    filterFailures := Counter.add s.filterFailures (UInt32.ofNat r.chain.failures.length) }

def totalDropped (s : SchedulerStats) : UInt32 := Counter.total s.dropped.toList

end SchedulerStats

end SensorFusion
