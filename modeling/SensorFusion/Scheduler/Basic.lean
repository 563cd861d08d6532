/-
  SensorFusion.Scheduler.Basic — when the pipeline runs, and the state a run works on.

  A scheduler is idle until started and armed with a deadline from then on. An armed
  scheduler runs when a sample has arrived or the deadline has passed. At the end of a
  run it arms the time then plus the timeout, unless an earlier deadline is armed
  already, so that a burst of samples never moves the deadline back.
-/

import SensorFusion.Chain.Basic
import SensorFusion.Scheduler.Report

namespace SensorFusion

inductive SchedulerState where
  /-- Not started. -/
  | idle
  /-- Waiting for a sample or the deadline. -/
  | armed
  /-- In the middle of a run. -/
  | running
  deriving DecidableEq

namespace SchedulerState

def all : List SchedulerState := [.idle, .armed, .running]

def name : SchedulerState → String
  | idle => "idle"
  | armed => "armed"
  | running => "running"

end SchedulerState

structure Scheduler (υ : Type) where
  chain : FilterChain υ
  gate : SanityGate
  home : HomeLinearizer
  alarm : LivenessAlarm
  state : SchedulerState
  /-- How long the next run may be awaited (ms). -/
  timeout : UInt32
  deadline : Option Timestamp
  stats : SchedulerStats

namespace Scheduler

variable {υ : Type}

/-- The nearest acceptable timeout. -/
def clampTimeout (timeout : UInt32) : UInt32 :=
  if timeout < minTimeout then minTimeout
  else if maxTimeout < timeout then maxTimeout
  else timeout

theorem timeoutInRange_clampTimeout (timeout : UInt32) :
    EstimationSettings.timeoutInRange (clampTimeout timeout) = true := by
  rw [EstimationSettings.timeoutInRange_iff]
  unfold clampTimeout
  split
  · decide
  · rename_i hmin
    split
    · decide
    · rename_i hmax
      rw [UInt32.lt_iff_toNat_lt] at hmin hmax
      omega

/-- Clamping leaves just the acceptable timeouts as they are. -/
theorem clampTimeout_eq_self_iff {timeout : UInt32} :
    clampTimeout timeout = timeout ↔ EstimationSettings.timeoutInRange timeout = true := by
  constructor
  · intro h
    rw [← h]
    exact timeoutInRange_clampTimeout timeout
  · intro h
    obtain ⟨hmin, hmax⟩ := EstimationSettings.timeoutInRange_iff.mp h
    have hlow : ¬ timeout < minTimeout := by
      rw [UInt32.lt_iff_toNat_lt]
      omega
    have hhigh : ¬ maxTimeout < timeout := by
      rw [UInt32.lt_iff_toNat_lt]
      omega
    rw [clampTimeout, if_neg hlow, if_neg hhigh]

theorem toNat_clampTimeout (timeout : UInt32) :
    (clampTimeout timeout).toNat = max minTimeout.toNat (min timeout.toNat maxTimeout.toNat) := by
  have hle : minTimeout.toNat ≤ maxTimeout.toNat := by decide
  unfold clampTimeout
  split
  · rename_i hmin
    rw [UInt32.lt_iff_toNat_lt] at hmin
    omega
  · rename_i hmin
    rw [UInt32.lt_iff_toNat_lt] at hmin
    split
    · rename_i hmax
      rw [UInt32.lt_iff_toNat_lt] at hmax
      omega
    · rename_i hmax
      rw [UInt32.lt_iff_toNat_lt] at hmax
      omega

def new (chain : FilterChain υ) (settings : EstimationSettings) : Scheduler υ :=
  { chain
    gate := .default
    home := .empty
    alarm := .initial
    state := .idle
    timeout := clampTimeout settings.timeout
    deadline := none
    stats := .zero }

def deadlineFrom (s : Scheduler υ) (now : Timestamp) : Timestamp := now.later s.timeout.toUInt64

/-- Start the chain and arm the first deadline. A home location known by now is treated
    like one announced later. Units that fail to start do not prevent the start. -/
def start [FilterUnit υ] (s : Scheduler υ) (home : Option HomeLocation) (now : Timestamp) :
    Except EstimationError ChainReport × Scheduler υ :=
  if s.state = .idle then
    let home := match home with
      | some h => (s.home.changeHome h).2
      | none => s.home
    let started := s.chain.start
    (.ok started.1,
      { s with home, chain := started.2, deadline := some (s.deadlineFrom now), state := .armed })
  else (.error (.invalidState SchedulerState.idle.name s.state.name), s)

def changeHome (s : Scheduler υ) (home : HomeLocation) : Except SanityError HomeReference × Scheduler υ :=
  let changed := s.home.changeHome home
  (changed.1, { s with home := changed.2 })

/-- Take over the timeout of acceptable settings, from the next deadline on. Their order of
    units must be acceptable, too, but does not change the chain. -/
def applySettings (s : Scheduler υ) (settings : EstimationSettings) : Except EstimationError Unit × Scheduler υ :=
  match settings.validate with
  | .error e => (.error e, s)
  | .ok () => (.ok (), { s with timeout := settings.timeout })

/-! ## Runs -/

def isDue (s : Scheduler υ) (now : Timestamp) : Bool := s.deadline.any (· ≤ now)

/-- What makes an armed scheduler run, if anything does; a sample comes before the
    deadline. -/
def trigger? (s : Scheduler υ) (now : Timestamp) (dispatched : Bool) : Option Trigger :=
  if dispatched then some .sensorUpdate
  else if s.isDue now then some .timeout
  else none

theorem isDue_iff {s : Scheduler υ} {now : Timestamp} : s.isDue now = true ↔ ∃ d, s.deadline = some d ∧ d ≤ now := by
  simp [isDue, Option.any_eq_true]

theorem trigger?_eq_some_iff {s : Scheduler υ} {now : Timestamp} {dispatched : Bool} {t : Trigger} :
    s.trigger? now dispatched = some t ↔
      (t = .sensorUpdate ∧ dispatched = true) ∨ (t = .timeout ∧ dispatched = false ∧ s.isDue now = true) := by
  cases t <;> cases dispatched <;> simp [trigger?]

theorem trigger?_eq_none_iff {s : Scheduler υ} {now : Timestamp} {dispatched : Bool} :
    s.trigger? now dispatched = none ↔ dispatched = false ∧ s.isDue now = false := by
  cases dispatched <;> simp [trigger?]

/-- Enter a run. A deadline that has passed is spent, whatever started the run. -/
def enter (s : Scheduler υ) (now : Timestamp) : Scheduler υ :=
  { s with state := .running, deadline := if s.isDue now then none else s.deadline }

theorem enter_deadline_of_due {s : Scheduler υ} {now d : Timestamp} (hd : s.deadline = some d) (hdue : d ≤ now) :
    (s.enter now).deadline = none := by
  simp [enter, isDue_iff.mpr ⟨d, hd, hdue⟩]

/-- A deadline that lies ahead outlasts the entry. -/
theorem enter_deadline_of_ahead {s : Scheduler υ} {now d : Timestamp} (hd : s.deadline = some d) (hnow : now < d) :
    (s.enter now).deadline = some d := by
  simp [enter, isDue, hd, UInt64.not_le.mpr hnow]

def nextDeadline (s : Scheduler υ) (now : Timestamp) : Timestamp :=
  match s.deadline with
  | some armed => if armed ≤ s.deadlineFrom now then armed else s.deadlineFrom now
  | none => s.deadlineFrom now

theorem nextDeadline_of_none {s : Scheduler υ} (hd : s.deadline = none) (now : Timestamp) :
    s.nextDeadline now = s.deadlineFrom now := by
  simp [nextDeadline, hd]

theorem nextDeadline_le (s : Scheduler υ) (now : Timestamp) : s.nextDeadline now ≤ s.deadlineFrom now := by
  unfold nextDeadline
  split
  · split
    · assumption
    · exact UInt64.le_refl _
  · exact UInt64.le_refl _

/-- The sooner of the armed deadline and the timeout wins. -/
theorem nextDeadline_le_armed {s : Scheduler υ} {d : Timestamp} (hd : s.deadline = some d) (now : Timestamp) :
    s.nextDeadline now ≤ d := by
  simp only [nextDeadline, hd]
  split
  · exact UInt64.le_refl _
  · rename_i h
    exact UInt64.le_of_lt (UInt64.not_le.mp h)

theorem nextDeadline_of_armed_le {s : Scheduler υ} {d now : Timestamp} (hd : s.deadline = some d)
    (h : d ≤ s.deadlineFrom now) : s.nextDeadline now = d := by
  simp [nextDeadline, hd, h]

theorem nextDeadline_of_lt_armed {s : Scheduler υ} {d now : Timestamp} (hd : s.deadline = some d)
    (h : s.deadlineFrom now < d) : s.nextDeadline now = s.deadlineFrom now := by
  have hn : ¬ d ≤ s.deadlineFrom now := UInt64.not_le.mpr h
  simp [nextDeadline, hd, hn]

def leave (s : Scheduler υ) (report : RunReport) (chain : FilterChain υ) : Scheduler υ :=
  { s with
    chain
    alarm := s.alarm.update report.alarm
    state := .armed
    deadline := some report.nextDeadline
    stats := s.stats.record report }

end Scheduler

end SensorFusion
